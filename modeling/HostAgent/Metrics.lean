import HostAgent.Reconcile.Loop

/-!
# Reporting the use of the host

At every tick the agent measures the host and sends the measurement to the
central server. The use of the processor is measured between two points in time,
so that before the first measurement a short wait is needed.
-/

namespace HostAgent.Metrics

open Work (central sleep now count measureHost say)

/-- The shortest time over which the use of the processor can be measured. -/
def primingTime : Duration := .ofMillis 200

/-- When the next measurement is due, and whether one has been made. -/
structure Loop where
  due : Duration
  primed : Bool
deriving DecidableEq, Repr

/-- Measure and send. -/
def reportOnce (hostId : String) (primed : Bool) : Work (Except CentralError Unit) := do
  if !primed then sleep primingTime
  let metrics ← measureHost
  match ← central (.pushMetrics hostId metrics) with
  | .ok _ =>
    say "Host metrics pushed"
    return .ok ()
  | .error e =>
    count .pushFailed
    return .error e

/-- A report at a tick. -/
def Loop.tick (hostId : String) (interval : Duration) (s : Loop) : Work Loop := do
  let due := Ticker.next interval s.due (← now)
  let result ← reportOnce hostId s.primed
  if !result.isOk then say "Host metrics cycle failed, will retry next interval"
  Work.health (.outcome ComponentName.metricsReporter (errorText CentralError.message result))
  return { due, primed := true }

end HostAgent.Metrics
