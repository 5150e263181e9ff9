import HostAgent.Reconcile.Sync
import HostAgent.Work.Ticker

/-!
# The event loop and the periodic sync

Two loops keep the central server up to date. The event loop handles the events
of a subscription one by one; when the subscription fails or ends, it waits and
opens another. The periodic sync runs a full sync at every tick. A loop is a
state together with what it waits for and what it does then, so that it can be
stopped wherever it waits.
-/

namespace HostAgent

open Work (subscribe now count log say)

/-! ## The event loop -/

/-- Where the event loop is. -/
inductive EventLoop
  | listening
  /-- Waiting to subscribe again. -/
  | pausing (until_ : Duration)
deriving DecidableEq, Repr

namespace EventLoop

/-- Open a subscription. -/
def open_ : Work EventLoop := do
  subscribe
  Work.health (.healthy ComponentName.eventStream)
  return .listening

/-- The subscription broke off. -/
def interrupted (hostId : String) (delay : Duration) (reason : String) : Work EventLoop := do
  count .reconnected
  log hostId (.streamReconnect reason delay.secs)
  Work.health (.degraded ComponentName.eventStream reason)
  return .pausing ((← now) + delay)

/-- What the loop waits for. -/
@[reducible] def wait : EventLoop → Action
  | .listening => .nextEvent
  | .pausing instant => .sleepUntil instant

/-- What it does then. That handling an event failed changes nothing for the next one. -/
def resume (hostId : String) (delay : Duration) :
    (s : EventLoop) → s.wait.Reply → Work EventLoop
  | .listening, some (.ok event) => do
    let handled ← Reconcile.handle hostId event
    if !handled.isOk then say "Event-driven sync failed"
    return .listening
  | .listening, some (.error e) => interrupted hostId delay e.message
  | .listening, none => interrupted hostId delay "event stream closed"
  | .pausing _, _ => open_

end EventLoop

/-! ## The periodic sync -/

/-- The text of an error, if there is one. -/
def errorText {ε α : Type} (message : ε → String) : Except ε α → Option String
  | .ok _ => none
  | .error e => some (message e)

/-- A full sync at a tick that was due; when the next one is due. -/
def Reconcile.periodicPass (hostId : String) (settings : ReconcileSettings) (due : Duration) :
    Work Duration := do
  let next := Ticker.next settings.syncInterval due (← now)
  let result ← Reconcile.fullSync hostId settings.bulkDelay
  if !result.isOk then say "Full sync failed, will retry next cycle"
  Work.health (.outcome ComponentName.fullSync (errorText SyncError.message result))
  return next

end HostAgent
