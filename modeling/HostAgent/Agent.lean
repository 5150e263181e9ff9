import HostAgent.Metrics
import HostAgent.Tasks.Loop

/-!
# The agent

The agent starts by checking that the central server accepts it and that the
engine answers; without either it does not run. Then it makes the record of its
host and registers it, which may fail. From then on four loops work side by side
until they are stopped: the event loop, the periodic sync, the task loop, and
the report of the use of the host.

Only the periodic sync is given up in the middle of its work; the other loops
finish what they do.
-/

namespace HostAgent

open Work (engine central now log say)

structure AgentSettings where
  overrides : HostOverrides
  reconcile : ReconcileSettings
  tasks : TaskSettings
  metricsInterval : Duration
  /-- What the endpoint of the engine is called. -/
  endpointLabel : String
deriving DecidableEq, Repr, Inhabited

/-! ## Loops -/

inductive LoopKind
  | events
  | periodic
  | tasks
  | metrics
deriving DecidableEq, Repr

/-- The state of a loop. -/
inductive LoopState
  | events (s : EventLoop)
  | periodic (due : Duration)
  | tasks (s : Tasks.Loop)
  | metrics (s : Metrics.Loop)
deriving Repr

namespace LoopState

/-- How a loop begins, with the results kept for it. -/
def start (kept : Unreported) : LoopKind → Work LoopState
  | .events => do
    say "Starting runtime event loop"
    return .events (← EventLoop.open_)
  | .periodic => do
    say "Starting periodic full sync"
    return .periodic (← now)
  | .tasks => do
    say "Starting task executor"
    return .tasks { due := ← now, kept }
  | .metrics => do
    say "Starting host metrics reporter"
    return .metrics { due := ← now, primed := false }

/-- What a loop waits for. -/
@[reducible] def wait : LoopState → Action
  | .events s => s.wait
  | .periodic due => .sleepUntil due
  | .tasks s => .sleepUntil s.due
  | .metrics s => .sleepUntil s.due

/-- What it does then, on a host. -/
def resume (hostId : String) (settings : AgentSettings) :
    (s : LoopState) → s.wait.Reply → Work LoopState
  | .events s, reply => do
    return .events (← s.resume hostId settings.reconcile.eventRetryDelay reply)
  | .periodic due, _ => do
    return .periodic (← Reconcile.periodicPass hostId settings.reconcile due)
  | .tasks s, _ => do return .tasks (← s.tick hostId settings.tasks)
  | .metrics s, _ => do return .metrics (← s.tick hostId settings.metricsInterval)

end LoopState

/-- Is the work of a loop given up when the agent stops? -/
def LoopKind.isAbandoned : LoopKind → Bool
  | .periodic => true
  | _ => false

/-! ## Starting and stopping -/

/-- Why the agent does not run. -/
inductive StartupError
  | unauthorized (cause : CentralError)
  | unreachable (cause : EngineError)
  | noSystemInfo (cause : EngineError)
deriving DecidableEq, Repr

/-- What failed, and below it what caused it. -/
def StartupError.chain : StartupError → List String
  | unauthorized cause => "Central API authentication check failed" :: cause.chain
  | unreachable cause => ["Container runtime is not reachable", cause.message]
  | noSystemInfo cause => ["Failed to read runtime system info", cause.message]

namespace Agent

def version : String := "0.1.0"

/-- Register the host. Without registration the agent runs on, degraded. -/
def register (host : HostRecord) : Work Unit := do
  match ← central (.registerHost host) with
  | .ok _ => log host.id (.hostRegistered host.name host.ipAddress)
  | .error e =>
    say "Host registration failed"
    log host.id (.hostUnregistered host.name)
    Work.health (.degraded ComponentName.centralApi ("host unregistered: " ++ e.message))

/-- From the first check to the registered host. -/
def startup (settings : AgentSettings) (detected : Option IpAddress) :
    Work (Except StartupError HostRecord) := do
  Work.health .registerAll
  match ← central .checkAuth with
  | .error e => return .error (.unauthorized e)
  | .ok _ =>
    match ← engine .ping with
    | .error e =>
      Work.health (.unhealthy ComponentName.runtime e.message)
      return .error (.unreachable e)
    | .ok _ =>
      match ← engine .systemInfo with
      | .error e => return .error (.noSystemInfo e)
      | .ok info =>
        let host := HostRecord.ofFacts info settings.overrides detected
        log host.id (.started version settings.endpointLabel)
        register host
        return .ok host

/-- The loops, in the order in which they start. -/
def loops : List LoopKind := [.events, .periodic, .tasks, .metrics]

/-- The loops are about to start. -/
def announce : Work Unit := do
  Work.health (.ready true)
  say "Agent running"

/-- The agent is told to stop. -/
def closing : Work Unit := Work.health (.ready false)

/-- All loops have ended. -/
def farewell (host : HostRecord) : Work Unit := log host.id (.shutdown "cancelled")

end Agent

end HostAgent
