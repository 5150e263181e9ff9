import HostAgent.Proofs.Reconcile.Passes
import HostAgent.Proofs.Tasks.Executing
import HostAgent.Proofs.Tasks.Polling

/-!
# Tasks that name no container

A task that acts on a container fails where it names none: without an id, and
with an empty one. Nothing was done then, so there is nothing to look at. But the
look at the container of a task goes by the id in the task as it stands. It is
left out where there is no id, and an empty id is looked up.

## Main results

* `process_unnamed`: what processing a task asks that names no container.
-/

namespace HostAgent

open Agent (callsOf callsOf_append)

/-- A visit begins with a call. -/
theorem Reconcile.Visit.callsOf_eq {hostId id : String} {past : List (Asked Action.Reply)}
    {outcome : Except SyncError SyncResult} (h : Reconcile.Visit hostId id past outcome) :
    ∃ reply more, callsOf past = ⟨.engine (.inspect id), reply⟩ :: more := by
  cases h <;> exact ⟨_, _, rfl⟩

namespace Tasks

/-- The result of a task for want of a container. -/
def unnamed (task : Task) : TaskResult :=
  { success := false
    containerId := task.containerId
    message := task.type.name ++ " task carries no container id"
    data := .null }

/-- What is told of a result is no call, and the report of it is one. -/
theorem callsOf_settlement (hostId : String) (task : Task) (result : TaskResult)
    (reply : Except CentralError Unit) :
    callsOf (settlement hostId task result reply) = [⟨.central (.report task.id result), reply⟩] :=
  rfl

/-- After a task that named no container, none is looked at, unless the task has an empty id. -/
theorem converge_unnamed {hostId : String} {task : Task} {past : List (Asked Action.Reply)}
    (h : (converge hostId task (unnamed task)).Yields past ()) :
    (task.containerId = none → past = []) ∧
    ∀ id, task.containerId = some id → ∃ outcome, Reconcile.Visit hostId id past outcome := by
  refine ⟨fun hnone => ?_, fun id hsome => ?_⟩
  · simp only [converge, unnamed, hnone] at h
    exact ((Program.yields_done _ _ _).1 h).1
  · simp only [converge, unnamed, hsome, Option.some_or, Bool.false_eq_true, and_false, if_false]
      at h
    have hsync : ((Reconcile.syncOne hostId id).bind fun _ => .done ()).Yields past () := h
    obtain ⟨visit, rest, outcome, rfl, hvisit, hend⟩ := (Program.yields_bind _ _ _ _).1 hsync
    obtain ⟨rfl, -⟩ := (Program.yields_done _ _ _).1 hend
    exact ⟨outcome, (List.append_nil visit).symm ▸ Reconcile.syncOne_visits hvisit⟩

/-- Whatever the engine and the central server reply, a task that acts on a container and has no id
of one, or an empty one, fails for want of it: nothing is done for it, its failure is told of and
reported once, and is kept where the report is not accepted. Where the task has no id, the report
is the only call. Where the id is empty, a container with the empty id is looked at after it, so
that the report is the only call just when the task has no id. -/
theorem process_unnamed {σ : Type} (hostId : String) (stopTimeoutSecs : Nat) {task : Task}
    (htype : task.type ≠ .deploy) (hid : task.containerId = none ∨ task.containerId = some "")
    (kept : Unreported) (answer : σ → (a : Action) → a.Reply × σ) (s : σ) :
    let p := process hostId stopTimeoutSecs task kept
    let past := p.history answer s
    ∃ reply rest,
      past = settlement hostId task (unnamed task) reply ++ rest ∧
      (p.run answer s).1 =
        (if reply.isOk then kept else kept.insert task.id (unnamed task)) ∧
      (task.containerId = none → rest = []) ∧
      (task.containerId = some "" → ∃ outcome, Reconcile.Visit hostId "" rest outcome) ∧
      (callsOf past = [⟨.central (.report task.id (unnamed task)), reply⟩] ↔
        task.containerId = none) := by
  intro p past
  have hempty : Text.nonEmpty? task.containerId = none := by
    rcases hid with hid | hid <;> rw [hid] <;> rfl
  have hyields : p.Yields past (p.run answer s).1 := Program.yields_run answer p s
  obtain ⟨_, ⟨reply, hexecute, hconverge⟩, hpast, hkept⟩ := process_executed hyields
  rw [execute_unnamed stopTimeoutSecs htype hempty] at hexecute
  obtain ⟨rfl, rfl⟩ := (Program.yields_done _ _ _).1 hexecute
  obtain ⟨hnone, hsome⟩ := converge_unnamed hconverge
  refine ⟨reply, _, hpast, hkept, hnone, hsome "", ?_⟩
  rw [hpast, List.nil_append, callsOf_append, callsOf_settlement]
  constructor
  · intro hcalls
    refine hid.resolve_right fun hid => ?_
    obtain ⟨outcome, hvisit⟩ := hsome "" hid
    obtain ⟨_, _, hmore⟩ := hvisit.callsOf_eq
    simp [hmore] at hcalls
  · intro hid
    rw [hnone hid]
    rfl

/-! A task to stop a container, with the empty id of one, where every call fails. -/

def stopNothing : Task :=
  { startWeb none with type := .stop, containerId := some "" }

/-- Its failure is reported, and then the engine is asked for a container. -/
theorem nothing_inspected :
    stopNothing.type = .stop ∧ stopNothing.containerId = some "" ∧
    callsOf ((process "h1" 10 stopNothing ∅).history (turnDown []) ()) =
      [⟨.central (.report "t1"
          ⟨false, some "", "stop task carries no container id", .null⟩), .error .transport⟩,
        ⟨.engine (.inspect ""), .error (.unavailable "away")⟩] :=
  ⟨rfl, rfl, rfl⟩

/-- The look at the container with the empty id is what the calls have besides the report. -/
theorem process_unnamed_stopNothing :
    stopNothing.type ≠ .deploy ∧ (stopNothing.containerId = none ∨
      stopNothing.containerId = some "") ∧
    ∃ reply rest, (process "h1" 10 stopNothing ∅).history (turnDown []) () =
        settlement "h1" stopNothing (unnamed stopNothing) reply ++ rest ∧
      (∃ outcome, Reconcile.Visit "h1" "" rest outcome) ∧
      callsOf ((process "h1" 10 stopNothing ∅).history (turnDown []) ()) ≠
        [⟨.central (.report "t1" (unnamed stopNothing)), reply⟩] := by
  have htype : stopNothing.type ≠ .deploy := by decide
  have hid : stopNothing.containerId = none ∨ stopNothing.containerId = some "" := .inr rfl
  obtain ⟨reply, rest, hpast, -, -, hvisit, hcalls⟩ :=
    process_unnamed "h1" 10 htype hid ∅ (turnDown []) ()
  refine ⟨htype, hid, reply, rest, hpast, hvisit rfl, fun honly => ?_⟩
  exact absurd (hcalls.1 honly) (by decide)

end Tasks

end HostAgent
