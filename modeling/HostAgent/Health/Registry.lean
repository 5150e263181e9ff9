import HostAgent.Json.Decode
import HostAgent.Json.Encode

/-!
# Health

Every part of the agent that works on its own reports how it fares. The registry
keeps the last report of each component, by name, and whether the agent has
started. The overall status is the worst status of a component, and an agent
without components is healthy. Changes are values, so that a history of the
registry is a list of them.

## Main results

* `ComponentStatus.worse_comm`, `worse_assoc`: worst status does not depend on order.
-/

namespace HostAgent

open Json (Decoder Fields always whenSome)

inductive ComponentStatus
  | healthy
  /-- Failing, and tried again in the next cycle. -/
  | degraded
  | unhealthy
deriving DecidableEq, Repr

namespace ComponentStatus

def name : ComponentStatus → String
  | healthy => "healthy"
  | degraded => "degraded"
  | unhealthy => "unhealthy"

def all : List ComponentStatus := [healthy, degraded, unhealthy]

def decoder : Decoder ComponentStatus := .variant (all.map fun s => (s.name, s))

def toJson (s : ComponentStatus) : Json := .string s.name

def isOperational : ComponentStatus → Bool
  | healthy | degraded => true
  | unhealthy => false

/-- The worse of two. -/
def worse : ComponentStatus → ComponentStatus → ComponentStatus
  | unhealthy, _ | _, unhealthy => unhealthy
  | degraded, _ | _, degraded => degraded
  | healthy, healthy => healthy

theorem worse_comm (a b : ComponentStatus) : a.worse b = b.worse a := by
  cases a <;> cases b <;> rfl

theorem worse_assoc (a b c : ComponentStatus) : (a.worse b).worse c = a.worse (b.worse c) := by
  cases a <;> cases b <;> cases c <;> rfl

end ComponentStatus

/-- The last report of a component. -/
structure ComponentHealth where
  status : ComponentStatus
  message : Option String
  /-- Seconds since the start of 1970. -/
  lastCheck : Int64
deriving DecidableEq, Repr

namespace ComponentHealth

def fields : Fields ComponentHealth :=
  .mk <$> Fields.required "status" ComponentStatus.decoder
    <*> Fields.optionalNamed "message" Decoder.string
    <*> Fields.required "last_check_timestamp" Decoder.int64

def decoder : Decoder ComponentHealth := fields.decode

def toJson (h : ComponentHealth) : Json :=
  .record [
    always "status" h.status.toJson,
    whenSome "message" .string h.message,
    always "last_check_timestamp" (.int h.lastCheck.toInt)]

end ComponentHealth

/-! ## Reports -/

/-- The health of the agent: the overall status and that of each component. -/
structure HealthReport where
  status : ComponentStatus
  components : KeyMap ComponentHealth
deriving DecidableEq, Repr

namespace HealthReport

/-- The worst status of a component. -/
def overall (components : KeyMap ComponentHealth) : ComponentStatus :=
  (components.values.map ComponentHealth.status).foldl .worse .healthy

def fields : Fields HealthReport :=
  .mk <$> Fields.required "status" ComponentStatus.decoder
    <*> Fields.required "components" (Decoder.keyMap ComponentHealth.decoder)

def decoder : Decoder HealthReport := fields.decode

def toJson (r : HealthReport) : Json :=
  .record [
    always "status" r.status.toJson,
    always "components" (.ofKeyMap ComponentHealth.toJson r.components)]

end HealthReport

/-- May work be given to the agent, and if not, why. -/
structure Readiness where
  ready : Bool
  reason : Option String
deriving DecidableEq, Repr

namespace Readiness

def fields : Fields Readiness :=
  .mk <$> Fields.required "ready" Decoder.bool
    <*> Fields.optionalNamed "reason" Decoder.string

def decoder : Decoder Readiness := fields.decode

def toJson (r : Readiness) : Json :=
  .record [always "ready" (.bool r.ready), whenSome "reason" .string r.reason]

end Readiness

/-! ## The registry -/

/-! The names of the components of the agent. -/

namespace ComponentName

def runtime : String := "runtime"
def centralApi : String := "central_api"
def eventStream : String := "event_stream"
def fullSync : String := "full_sync"
def taskExecutor : String := "task_executor"
def metricsReporter : String := "metrics_reporter"

def all : List String :=
  [runtime, centralApi, eventStream, fullSync, taskExecutor, metricsReporter]

end ComponentName

/-- A change of the registry. -/
inductive HealthChange
  /-- Every component of the agent is healthy. -/
  | registerAll
  | put (name : String) (status : ComponentStatus) (message : Option String)
  | ready (value : Bool)
deriving DecidableEq, Repr

namespace HealthChange

def healthy (name : String) : HealthChange := .put name .healthy none

def degraded (name message : String) : HealthChange := .put name .degraded (some message)

def unhealthy (name message : String) : HealthChange := .put name .unhealthy (some message)

/-- Healthy after a success, degraded with the text of the error after a failure. -/
def outcome (name : String) (error : Option String) : HealthChange :=
  match error with
  | none => healthy name
  | some message => degraded name message

end HealthChange

/-- The last report of each component, and whether the agent has started. -/
structure HealthRegistry where
  components : KeyMap ComponentHealth
  ready : Bool
deriving DecidableEq, Repr, Inhabited

namespace HealthRegistry

/-- No component has reported. -/
def initial : HealthRegistry := ⟨∅, false⟩

/-- The registry after a change at a time. -/
def apply (now : Int64) (r : HealthRegistry) : HealthChange → HealthRegistry
  | .registerAll =>
    let register (m : KeyMap ComponentHealth) (name : String) : KeyMap ComponentHealth :=
      m.insert name ⟨.healthy, none, now⟩
    { r with components := ComponentName.all.foldl register r.components }
  | .put name status message =>
    { r with components := r.components.insert name ⟨status, message, now⟩ }
  | .ready value => { r with ready := value }

def report (r : HealthRegistry) : HealthReport :=
  ⟨HealthReport.overall r.components, r.components⟩

def readiness (r : HealthRegistry) : Readiness :=
  if !r.ready then ⟨false, some "Agent not yet initialized"⟩
  else if r.report.status = .unhealthy then ⟨false, some "Component unhealthy"⟩
  else ⟨true, none⟩

end HealthRegistry

end HostAgent
