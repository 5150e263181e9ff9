import HostAgent.Reconcile.Loop
import HostAgent.Tasks.Poll

/-!
# The task loop

At every tick the agent polls for tasks. What could not be reported stays for
the next poll.
-/

namespace HostAgent.Tasks

open Work (now say)

/-- When the next poll is due, and the results that are kept for it. -/
structure Loop where
  due : Duration
  kept : Unreported
deriving DecidableEq, Repr

/-- A poll at a tick. -/
def Loop.tick (hostId : String) (settings : TaskSettings) (s : Loop) : Work Loop := do
  let due := Ticker.next settings.pollInterval s.due (← now)
  let (result, kept) ← pollOnce hostId settings.stopTimeoutSecs s.kept
  if !result.isOk then say "Task poll failed, will retry next interval"
  Work.health (.outcome ComponentName.taskExecutor (errorText CentralError.message result))
  return { due, kept }

end HostAgent.Tasks
