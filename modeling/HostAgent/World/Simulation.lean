import HostAgent.Central.State
import HostAgent.Engine.State
import HostAgent.World.Schedule

/-!
# A simulated world

An engine and a central server in memory, as surroundings of the agent. On top
of what they promise, rules make calls slow or let them fail; a rule names a call
or a call with its argument, and holds for ever or for a number of times. Every
call is written down when it starts, with the time.
-/

namespace HostAgent

/-- What a call says when it is made to fail, on either side. -/
structure Fault where
  engine : EngineError
  central : CentralError
deriving DecidableEq, Repr

/-- A rule for the calls of a name, or of a name and an argument. -/
structure CallRule (α : Type) where
  call : String
  effect : α
  times : Option Nat
deriving Repr

namespace CallRule

variable {α : Type}

def isMatch (r : CallRule α) (name arg : String) : Bool :=
  (r.call == name || r.call == name ++ " " ++ arg) && r.times != some 0

/-- The effect of the first rule for a call, and the rules with one use less. -/
def take (name arg : String) : List (CallRule α) → Option α × List (CallRule α)
  | [] => (none, [])
  | r :: rest =>
    if r.isMatch name arg then (some r.effect, { r with times := r.times.map (· - 1) } :: rest)
    else
      let (effect, rest) := take name arg rest
      (effect, r :: rest)

end CallRule

/-- What a subscription yields, each item after a wait, and whether it stays open then. -/
structure Subscription where
  items : List (Nat × Except EngineError LifecycleEvent)
  staysOpen : Bool

namespace Subscription

/-- Yields nothing and stays open. -/
def silent : Subscription := ⟨[], true⟩

end Subscription

/-- A call that was made. -/
structure CallEntry where
  time : Nat
  name : String
  arg : String
  action : Action

structure World where
  engine : EngineState
  central : CentralState
  /-- What a listing shows in place of the containers. -/
  listed : Option (List String)
  /-- Subscriptions to come. -/
  subscriptions : List Subscription
  current : Subscription
  faults : List (CallRule Fault)
  delays : List (CallRule Nat)
  /-- Calls made, newest first. -/
  calls : List CallEntry
  health : HealthRegistry
  series : Series
  /-- Events logged, newest first. -/
  events : List (String × LogEvent)

namespace World

/-! ## Names of calls -/

def engineName : EngineCall → String × String
  | .ping => ("ping", "")
  | .systemInfo => ("system_info", "")
  | .list all => ("list", if all then "all" else "running")
  | .inspect id => ("inspect", id)
  | .inspectImage image => ("inspect_image", image)
  | .pull image => ("pull", image)
  | .create r => ("create", r.image)
  | .start id => ("start", id)
  | .stop id _ => ("stop", id)
  | .restart id _ => ("restart", id)
  | .remove id _ _ => ("remove", id)

def centralName : CentralCall → String × String
  | .checkAuth => ("check_auth", "")
  | .registerHost host => ("register_host", host.id)
  | .sync record => ("sync_container", record.id)
  | .delete id => ("delete_container", id)
  | .isIgnored id => ("is_ignored", id)
  | .removeIgnored id => ("remove_ignored", id)
  | .listIgnored => ("list_ignored", "")
  | .pushMetrics hostId _ => ("push_metrics", hostId)
  | .pendingTasks hostId => ("pending_tasks", hostId)
  | .report taskId _ => ("report_task_result", taskId)

/-! ## Answers -/

/-- Write a call down; its delay. -/
def note (w : World) (time : Nat) (a : Action) (name arg : String) : World × Nat :=
  let (delay, delays) := CallRule.take name arg w.delays
  ({ w with calls := ⟨time, name, arg, a⟩ :: w.calls, delays }, delay.getD 0)

def begin_ (w : World) (time : Nat) (a : Action) : World × Option Nat :=
  match a with
  | .engine call =>
    let (w, delay) := w.note time a (engineName call).1 (engineName call).2
    (w, some delay)
  | .central call =>
    let (w, delay) := w.note time a (centralName call).1 (centralName call).2
    (w, some delay)
  | .subscribe => ({ w with calls := ⟨time, "subscribe", "", a⟩ :: w.calls }, some 0)
  | .nextEvent =>
    match w.current.items with
    | (delay, _) :: _ => (w, some delay)
    | [] => (w, if w.current.staysOpen then none else some 0)
  | .sleep d => (w, some d.ticks)
  | .sleepUntil instant => (w, some (instant.ticks - time))
  | .now | .measure | .notice _ => (w, some 0)

/-- The reply to a call of the engine: a fault, if a rule says so. -/
def engineReply (w : World) (call : EngineCall) : call.Reply × World :=
  let (fault, faults) := CallRule.take (engineName call).1 (engineName call).2 w.faults
  let w := { w with faults }
  match fault with
  | some f => (.error f.engine, w)
  | none =>
    let (reply, engine) := w.engine.answer call
    let reply : call.Reply :=
      match call, w.listed with
      | .list _, some ids => .ok (ids.map fun id => ⟨id, id⟩)
      | _, _ => reply
    (reply, { w with engine })

def centralReply (w : World) (call : CentralCall) : call.Reply × World :=
  let (fault, faults) := CallRule.take (centralName call).1 (centralName call).2 w.faults
  let w := { w with faults }
  match fault with
  | some f => (.error f.central, w)
  | none =>
    let (reply, central) := w.central.answer call
    (reply, { w with central })

/-- Take a notice. -/
def heed (w : World) (time : Nat) : Notice → World
  | .health change =>
    { w with health := w.health.apply (Int64.ofNat (time / 1000)) change }
  | .series change => { w with series := w.series.apply change }
  | .event hostId event => { w with events := (hostId, event) :: w.events }
  | .line _ => w

def finish (w : World) (time : Nat) : (a : Action) → a.Reply × World
  | .engine call => w.engineReply call
  | .central call => w.centralReply call
  | .subscribe =>
    match w.subscriptions with
    | s :: rest => ((), { w with current := s, subscriptions := rest })
    | [] => ((), { w with current := .silent })
  | .nextEvent =>
    match w.current.items with
    | (_, item) :: rest => (some item, { w with current := { w.current with items := rest } })
    | [] => (none, w)
  | .sleep _ => ((), w)
  | .sleepUntil _ => ((), w)
  | .now => (.ofMillis time, w)
  | .measure => (⟨.ofFloat 0, 0, .ofFloat 0, .epoch⟩, w)
  | .notice n => ((), w.heed time n)

def surroundings : Surroundings World := ⟨begin_, finish⟩

/-! ## Running the agent -/

/-- A run of the agent: the health when it was told to stop, the world in the end, and how long
stopping took, or why the agent did not run. -/
structure AgentRun where
  seen : HealthRegistry
  final : World
  result : Except StartupError Nat

/-- Run the agent for some time, and stop it. -/
def simulate (settings : AgentSettings) (millis : Nat) (w : World) : AgentRun :=
  let startup := Agent.startup settings none
  match surroundings.runAlone startup w 0 with
  | (none, final, _) => ⟨final.health, final, .ok 0⟩
  | (some (.error e), final, _) =>
    ⟨(surroundings.runBefore millis startup w 0).health, final, .error e⟩
  | (some (.ok host), w, time) =>
    let running := (Schedule.begun surroundings host settings w time).runFor (millis - time)
    let seen :=
      if time ≤ millis then running.world.health
      else (surroundings.runBefore millis startup w 0).health
    let ended := running.shutdown host
    ⟨seen, ended.world, .ok (ended.time - max running.time millis)⟩

end World

end HostAgent
