import HostAgent.Spec

/-!
# Tasks

A task is an instruction of the central server to this host; its result is what
the host reports back. A task that carries a result is done.
-/

namespace HostAgent

open Json (Decoder Fields always whenSome)

inductive TaskType
  | deploy
  | delete
  | start
  | stop
  | restart
deriving DecidableEq, Repr

namespace TaskType

def name : TaskType → String
  | deploy => "deploy"
  | delete => "delete"
  | start => "start"
  | stop => "stop"
  | restart => "restart"

def all : List TaskType := [deploy, delete, start, stop, restart]

def decoder : Decoder TaskType := .variant (all.map fun t => (t.name, t))

def toJson (t : TaskType) : Json := .string t.name

end TaskType

/-! ## Results -/

/-- How a task ended. -/
structure TaskResult where
  success : Bool
  containerId : Option String
  message : String
  data : Json
deriving DecidableEq, Repr

namespace TaskResult

/-- A success without data. -/
def succeeded (containerId : Option String) (message : String) : TaskResult :=
  { success := true, containerId, message, data := .null }

/-- A failure without data. -/
def failed (containerId : Option String) (message : String) : TaskResult :=
  { success := false, containerId, message, data := .null }

def withData (r : TaskResult) (data : Json) : TaskResult := { r with data }

def fields : Fields TaskResult :=
  .mk <$> Fields.required "success" Decoder.bool
    <*> Fields.optional "container_id" Decoder.string
    <*> Fields.required "message" Decoder.string
    <*> Fields.withDefault "data" Decoder.any .null

def decoder : Decoder TaskResult := fields.decode

def toJson (r : TaskResult) : Json :=
  .record [
    always "success" (.bool r.success),
    whenSome "container_id" .string r.containerId,
    always "message" (.string r.message),
    always "data" r.data]

end TaskResult

/-! ## Tasks -/

structure Task where
  id : String
  type : TaskType
  hostId : Option String
  containerId : Option String
  spec : Option ContainerSpec
  force : Bool
  timeoutSecs : Option UInt64
  result : Option TaskResult
deriving DecidableEq, Repr

namespace Task

def fields : Fields Task :=
  .mk <$> Fields.required "id" Decoder.string
    <*> Fields.required "type" TaskType.decoder
    <*> Fields.optional "host_id" Decoder.string
    <*> Fields.optional "container_id" Decoder.string
    <*> Fields.optional "spec" ContainerSpec.decoder
    <*> Fields.withDefault "force" Decoder.bool false
    <*> Fields.optional "timeout_secs" Decoder.uint64
    <*> Fields.optional "result" TaskResult.decoder

def decoder : Decoder Task := fields.decode

def toJson (t : Task) : Json :=
  .record [
    always "id" (.string t.id),
    always "type" t.type.toJson,
    whenSome "host_id" .string t.hostId,
    whenSome "container_id" .string t.containerId,
    whenSome "spec" ContainerSpec.toJson t.spec,
    always "force" (.bool t.force),
    whenSome "timeout_secs" (fun n => .nat n.toNat) t.timeoutSecs,
    whenSome "result" TaskResult.toJson t.result]

end Task

end HostAgent
