import HostAgent.Central.Error
import HostAgent.Host
import HostAgent.IgnoreEntry
import HostAgent.Task

/-!
# Calls to the central server

Everything the agent asks of the central server, and what it gets in return.
-/

namespace HostAgent

/-- What syncing a container did. -/
inductive SyncOutcome
  | created
  | updated
  /-- The container is on the ignore list, and nothing was sent. -/
  | ignored
deriving DecidableEq, Repr

def SyncOutcome.name : SyncOutcome → String
  | created => "created"
  | updated => "updated"
  | ignored => "ignored"

inductive CentralCall
  | checkAuth
  | registerHost (host : HostRecord)
  | sync (record : ContainerRecord)
  | delete (id : String)
  | isIgnored (id : String)
  | removeIgnored (id : String)
  | listIgnored
  | pushMetrics (hostId : String) (metrics : HostMetrics)
  | pendingTasks (hostId : String)
  | report (taskId : String) (result : TaskResult)
deriving DecidableEq, Repr

namespace CentralCall

/-- What a call yields if it succeeds. -/
@[reducible] def Result : CentralCall → Type
  | checkAuth | registerHost _ | delete _ | removeIgnored _ | pushMetrics .. | report .. => Unit
  | sync _ => SyncOutcome
  | isIgnored _ => Bool
  | listIgnored => List IgnoreEntry
  | pendingTasks _ => List Task

abbrev Reply (c : CentralCall) : Type := Except CentralError c.Result

end CentralCall

end HostAgent
