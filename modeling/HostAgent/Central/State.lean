import HostAgent.Central.Call

/-!
# A central server in memory

The records, the ignore list and the tasks of a server that does what its calls
promise, and never fails. A container on the ignore list gets no record; removing
what is not there is no error.

## Main results

* `CentralState.sync_ignored`: a container on the ignore list changes nothing.
-/

namespace HostAgent

/-- The records by id, the ignore list, and the tasks that are handed out. -/
structure CentralState where
  records : KeyMap ContainerRecord
  ignored : List String
  tasks : List Task
deriving DecidableEq, Repr

namespace CentralState

/-- The entry of an ignored container. -/
def entry (id : String) : IgnoreEntry := ⟨id, "", .epoch⟩

/-- The reply to a call, and the state after it. -/
def answer (s : CentralState) : (c : CentralCall) → c.Reply × CentralState
  | .checkAuth => (.ok (), s)
  | .registerHost _ => (.ok (), s)
  | .sync record =>
    if s.ignored.contains record.id then (.ok .ignored, s)
    else
      (.ok (if s.records.contains record.id then .updated else .created),
        { s with records := s.records.insert record.id record })
  | .delete id => (.ok (), { s with records := s.records.erase id })
  | .isIgnored id => (.ok (s.ignored.contains id), s)
  | .removeIgnored id => (.ok (), { s with ignored := s.ignored.filter (· ≠ id) })
  | .listIgnored => (.ok (s.ignored.map entry), s)
  | .pushMetrics _ _ => (.ok (), s)
  | .pendingTasks _ => (.ok s.tasks, s)
  | .report _ _ => (.ok (), s)

theorem sync_ignored (s : CentralState) (record : ContainerRecord)
    (h : s.ignored.contains record.id = true) :
    s.answer (.sync record) = (.ok .ignored, s) := by
  simp only [answer, h, if_true]

end CentralState

end HostAgent
