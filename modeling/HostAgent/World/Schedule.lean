import HostAgent.Agent
import HostAgent.Decimal.Power

/-!
# Running in virtual time

Surroundings answer actions after a number of milliseconds, and running takes no
time by itself. A single program runs from question to question. Several loops
run side by side: the one whose answer is due first continues, of two the one
that asked first, and it continues until it has to wait.
-/

namespace HostAgent

/-- What surrounds a running program. -/
structure Surroundings (W : Type) where
  /-- An action starts: how long it takes, or that it never ends. -/
  begin_ : W → Nat → Action → W × Option Nat
  /-- An action ends: what it yields. -/
  finish : W → Nat → (a : Action) → a.Reply × W

namespace Surroundings

variable {W α : Type}

/-- Run a program alone from a time on; it yields nothing if an action never ends. -/
def runAlone (env : Surroundings W) : Work α → W → Nat → Option α × W × Nat
  | .done a, w, time => (some a, w, time)
  | .ask q k, w, time =>
    match env.begin_ w time q with
    | (w, none) => (none, w, time)
    | (w, some delay) =>
      let (reply, w) := env.finish w (time + delay) q
      env.runAlone (k reply) w (time + delay)

/-- The surroundings that a program leaves behind at a limit, where it may still be running. -/
def runBefore (env : Surroundings W) (limit : Nat) : Work α → W → Nat → W
  | .done _, w, _ => w
  | .ask q k, w, time =>
    match env.begin_ w time q with
    | (w, none) => w
    | (w, some delay) =>
      if limit < time + delay then w
      else
        let (reply, w) := env.finish w (time + delay) q
        env.runBefore limit (k reply) w (time + delay)

end Surroundings

/-! ## Loops side by side -/

/-- What a loop is doing. -/
inductive Activity
  | waiting (s : LoopState)
  | working (a : Action) (next : a.Reply → Work LoopState)
  /-- Ended, in a state unless its work was given up. -/
  | ended (last : Option LoopState)

/-- A loop with this left of its turn. -/
def Activity.ofWork : Work LoopState → Activity
  | .done s => .waiting s
  | .ask a k => .working a k

/-- A loop, when it continues, and when it asked for that. -/
structure Strand where
  kind : LoopKind
  activity : Activity
  wake : Option Nat
  order : Nat

/-- Loops on a host and their surroundings. -/
structure Schedule (W : Type) where
  env : Surroundings W
  hostId : String
  settings : AgentSettings
  world : W
  time : Nat
  strands : List Strand
  stopping : Bool
  /-- How often a loop has asked for something. -/
  asked : Nat

namespace Schedule

variable {W : Type}

/-- No loop yet. -/
def empty (env : Surroundings W) (hostId : String) (settings : AgentSettings) (world : W)
    (time : Nat) : Schedule W :=
  { env, hostId, settings, world, time, strands := [], stopping := false, asked := 0 }

/-- Continue a loop until it has to wait. The fuel bounds the actions that take no time; after them
it gets no further. -/
def proceed (s : Schedule W) : Nat → Work LoopState → W → Activity × Option Nat × W
  | 0, p, w => (.ofWork p, none, w)
  | fuel + 1, p, w =>
    match p with
    | .done state =>
      if s.stopping then (.ended (some state), none, w)
      else
        match s.env.begin_ w s.time state.wait with
        | (w, some 0) =>
          let (reply, w) := s.env.finish w s.time state.wait
          s.proceed fuel (state.resume s.hostId s.settings reply) w
        | (w, delay) => (.waiting state, delay, w)
    | .ask a k =>
      match s.env.begin_ w s.time a with
      | (w, some 0) =>
        let (reply, w) := s.env.finish w s.time a
        s.proceed fuel (k reply) w
      | (w, delay) => (.working a k, delay, w)

/-- Actions without waiting that a loop may take in a row. -/
def patience : Nat := tenPow 7

/-- Continue a loop of some kind with a program; the others are as given. -/
def continue_ (s : Schedule W) (others : List Strand) (kind : LoopKind) (p : Work LoopState)
    (w : W) : Schedule W :=
  let (activity, delay, w) := s.proceed patience p w
  let strand : Strand :=
    { kind, activity, wake := delay.map (s.time + ·), order := s.asked }
  { s with world := w, strands := others ++ [strand], asked := s.asked + 1 }

/-- Start a loop. -/
def spawn (s : Schedule W) (kept : Unreported) (kind : LoopKind) : Schedule W :=
  s.continue_ s.strands kind (LoopState.start kept kind) s.world

/-- Does the first loop continue before the second? -/
def isBefore (a b : Strand) : Bool :=
  match a.wake, b.wake with
  | some x, some y => x < y || (x == y && a.order < b.order)
  | some _, none => true
  | none, _ => false

/-- The loop that continues first. -/
def first? : List Strand → Option Strand
  | [] => none
  | a :: rest =>
    match first? rest with
    | none => if a.wake.isSome then some a else none
    | some b => if isBefore a b then some a else some b

/-- The answer for a loop is there. -/
def wakeUp (s : Schedule W) (strand : Strand) : Schedule W :=
  let others := s.strands.filter fun t => t.order != strand.order
  match strand.activity with
  | .waiting state =>
    let (reply, w) := s.env.finish s.world s.time state.wait
    s.continue_ others strand.kind (state.resume s.hostId s.settings reply) w
  | .working a k =>
    let (reply, w) := s.env.finish s.world s.time a
    s.continue_ others strand.kind (k reply) w
  | .ended _ => { s with strands := others ++ [{ strand with wake := none }] }

/-- Run until no loop continues, or the next one would after the limit, or `enough` holds. -/
def advance (enough : Schedule W → Bool) (limit : Option Nat) : Nat → Schedule W → Schedule W
  | 0, s => s
  | fuel + 1, s =>
    match first? s.strands with
    | none => s
    | some strand =>
      match strand.wake with
      | none => s
      | some wake =>
        if limit.any (· < wake) || (enough s && s.time < wake) then s
        else advance enough limit fuel ({ s with time := wake }.wakeUp strand)

/-- Run for some time. -/
def runFor (s : Schedule W) (millis : Nat) : Schedule W :=
  let limit := s.time + millis
  { advance (fun _ => false) (some limit) patience s with time := limit }

/-- Tell the loops to stop. Those that wait end, and so does work that is given up. -/
def stop (s : Schedule W) : Schedule W :=
  let stopped (strand : Strand) : Strand :=
    match strand.activity with
    | .waiting state => { strand with activity := .ended (some state), wake := none }
    | .working .. =>
      if strand.kind.isAbandoned then { strand with activity := .ended none, wake := none }
      else strand
    | .ended _ => strand
  { s with stopping := true, strands := s.strands.map stopped }

/-- Run until all loops have ended. -/
def join (s : Schedule W) : Schedule W := advance (fun _ => false) none patience s

/-- Run a program besides the loops. -/
def aside (s : Schedule W) (p : Work Unit) : Schedule W :=
  { s with world := (s.env.runAlone p s.world s.time).2.1 }

/-- The loops of an agent that has registered its host, just begun. -/
def begun (env : Surroundings W) (host : HostRecord) (settings : AgentSettings) (world : W)
    (time : Nat) : Schedule W :=
  Agent.loops.foldl (Schedule.spawn · ∅)
    ((Schedule.empty env host.id settings world time).aside Agent.announce)

/-- The agent stops: its loops are told to, and all end. -/
def shutdown (s : Schedule W) (host : HostRecord) : Schedule W :=
  (s.aside Agent.closing).stop.join.aside (Agent.farewell host)

/-- The results that a task loop keeps. -/
def kept? (s : Schedule W) : Option Unreported :=
  s.strands.findSome? fun strand =>
    match strand.activity with
    | .ended (some (.tasks loop)) => some loop.kept
    | _ => none

end Schedule

end HostAgent
