import HostAgent.Reconcile.Sync
import HostAgent.Tasks.Execute

/-!
# Polling for tasks

The agent asks for its tasks, executes those without a result, reports each
result, and syncs the container that was touched. A result that could not be
reported is kept and sent again at the start of the next poll. A task whose
result is kept, or was sent again in this poll, is not executed.
-/

namespace HostAgent

open Work (central count log)

/-- Results that were not reported yet, by the id of their task. -/
abbrev Unreported : Type := KeyMap TaskResult

/-- Who executes tasks, and how long containers may take to stop. -/
structure TaskSettings where
  pollInterval : Duration
  stopTimeoutSecs : Nat
deriving DecidableEq, Repr, Inhabited

namespace Tasks

/-- Send kept results again; those accepted are not kept any more. -/
def flush : List (String × TaskResult) → Unreported → Work Unreported
  | [], kept => return kept
  | (id, result) :: rest, kept => do
    match ← central (.report id result) with
    | .ok _ => flush rest (kept.erase id)
    | .error _ => flush rest kept

/-- Bring the record of the container that a task touched up to date. -/
def converge (hostId : String) (task : Task) (result : TaskResult) : Work Unit := do
  match result.containerId.or task.containerId with
  | none => return ()
  | some id =>
    if task.type = .delete ∧ result.success then
      let _ ← Reconcile.forget id
    else
      let _ ← Reconcile.syncOne hostId id

/-- Execute a task, report its result and sync its container. -/
def process (hostId : String) (stopTimeoutSecs : Nat) (task : Task) (kept : Unreported) :
    Work Unreported := do
  let result ← execute task stopTimeoutSecs
  count (.taskExecuted result.success)
  log hostId (.taskCompleted task.id task.type.name result.success result.containerId
    result.message)
  let reported ← central (.report task.id result)
  let kept := if reported.isOk then kept else kept.insert task.id result
  converge hostId task result
  return kept

/-- Is a listed task to be left alone? -/
def isDone (resent : List String) (kept : Unreported) (task : Task) : Bool :=
  task.result.isSome || resent.contains task.id || kept.contains task.id

/-- Go through the listed tasks; the number of those executed. -/
def processEach (hostId : String) (stopTimeoutSecs : Nat) (resent : List String) :
    List Task → Unreported → Work (Nat × Unreported)
  | [], kept => return (0, kept)
  | task :: tasks, kept => do
    if isDone resent kept task then processEach hostId stopTimeoutSecs resent tasks kept
    else
      let kept ← process hostId stopTimeoutSecs task kept
      let (executed, kept) ← processEach hostId stopTimeoutSecs resent tasks kept
      return (executed + 1, kept)

/-- One poll: how many tasks were executed, and the results still kept. -/
def pollOnce (hostId : String) (stopTimeoutSecs : Nat) (kept : Unreported) :
    Work (Except CentralError Nat × Unreported) := do
  let resent := kept.keys
  let kept ← flush kept.entries kept
  match ← central (.pendingTasks hostId) with
  | .error e => return (.error e, kept)
  | .ok tasks =>
    let (executed, kept) ← processEach hostId stopTimeoutSecs resent tasks kept
    return (.ok executed, kept)

end Tasks

end HostAgent
