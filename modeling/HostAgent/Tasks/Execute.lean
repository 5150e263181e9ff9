import HostAgent.Work.Action

/-!
# Executing a task

A task is carried out by a few calls to the engine and ends in a result; an
error is a failed result. Deploying is all or nothing: a container that does not
start is removed again. A container that already runs, is stopped or is absent is
a success for the task that wants it so.
-/

namespace HostAgent

open Work (engine say)

namespace Tasks

/-- Pull an image as the policy says. Was it pulled? -/
def pullImage (image : String) (policy : PullPolicy) : Work (Except EngineError Bool) := do
  let pull : Work (Except EngineError Bool) := do
    return (← engine (.pull image)).map fun _ => true
  match policy with
  | .never => return .ok false
  | .ifNotPresent =>
    match ← engine (.inspectImage image) with
    | .ok _ => return .ok false
    | .error _ => pull
  | .always => pull

/-- What a deployment reports besides the id of the container. -/
def deployData (spec : ContainerSpec) (pulled : Bool) : Json :=
  Json.ofMembers [
    ("image", .string spec.image),
    ("name", .ofText? spec.createRequest.name),
    ("pulled", .bool pulled)]

/-- Pull, create and start. -/
def deploy (spec : ContainerSpec) : Work (Except EngineError TaskResult) := do
  match ← pullImage spec.image spec.pullPolicy with
  | .error e => return .error e
  | .ok pulled =>
    match ← engine (.create spec.createRequest) with
    | .error e => return .error e
    | .ok id =>
      match ← engine (.start id) with
      | .ok _ =>
        return .ok ((TaskResult.succeeded (some id) "container deployed").withData
          (deployData spec pulled))
      | .error e =>
        say "Start failed after create, removing container"
        let _ ← engine (.remove id true false)
        return .error e

/-- A call whose success has one text, and whose error `fine` is a success with another. -/
def attempt {call : EngineCall} (id : String) (reply : call.Reply) (done : String)
    (fine : EngineError → Bool) (already : String) : Except EngineError TaskResult :=
  match reply with
  | .ok _ => .ok (.succeeded (some id) done)
  | .error e => if fine e then .ok (.succeeded (some id) already) else .error e

def start (id : String) : Work (Except EngineError TaskResult) := do
  return attempt id (← engine (.start id)) "container started" EngineError.isNotModified
    "container already running"

def stop (id : String) (timeoutSecs : Nat) : Work (Except EngineError TaskResult) := do
  return attempt id (← engine (.stop id timeoutSecs)) "container stopped"
    EngineError.isNotModified "container already stopped"

def restart (id : String) (timeoutSecs : Nat) : Work (Except EngineError TaskResult) := do
  return (← engine (.restart id timeoutSecs)).map fun _ =>
    .succeeded (some id) "container restarted"

def remove (id : String) (force : Bool) : Work (Except EngineError TaskResult) := do
  return attempt id (← engine (.remove id force false)) "container deleted"
    EngineError.isNotFound "container already absent"

/-- Stop a container, unless it is removed by force, and remove it. -/
def delete (id : String) (force : Bool) (timeoutSecs : Nat) :
    Work (Except EngineError TaskResult) := do
  if force then remove id true
  else
    match ← engine (.stop id timeoutSecs) with
    | .ok _ => remove id false
    | .error e =>
      if e.isNotModified || e.isNotFound then remove id false else return .error e

/-- What a task asks for, for a container that it names. -/
def onContainer (task : Task) (id : String) (timeoutSecs : Nat) :
    Work (Except EngineError TaskResult) :=
  match task.type with
  | .delete => delete id task.force timeoutSecs
  | .start => start id
  | .stop => stop id timeoutSecs
  | .restart | .deploy => restart id timeoutSecs

/-- Carry out a task. Without a timeout of its own the given one holds. -/
def dispatch (task : Task) (stopTimeoutSecs : Nat) : Work (Except TaskError TaskResult) := do
  if task.type = .deploy then
    match task.spec with
    | none => return .error (.missingSpec task.type.name)
    | some spec => return (← deploy spec).mapError .engine
  else
    match Text.nonEmpty? task.containerId with
    | none => return .error (.missingContainerId task.type.name)
    | some id =>
      let timeout := (task.timeoutSecs.map UInt64.toNat).getD stopTimeoutSecs
      return (← onContainer task id timeout).mapError .engine

/-- The result of a task. -/
def execute (task : Task) (stopTimeoutSecs : Nat) : Work TaskResult := do
  match ← dispatch task stopTimeoutSecs with
  | .ok result => return result
  | .error e => return .failed task.containerId e.message

end Tasks

end HostAgent
