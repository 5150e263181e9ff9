import HostAgent.Engine.Ports

/-!
# The body of a create request

A request to create a container in the form in which the engine takes it. Lists
and maps that are empty are left out.
-/

namespace HostAgent

open Json (always whenSome)

namespace MountRequest

/-- A mount as `source:target`, with `:ro` if it is read only. -/
def bind (m : MountRequest) : String :=
  m.source ++ ":" ++ m.target ++ (if m.readOnly then ":ro" else "")

end MountRequest

namespace RestartRule

def body (r : RestartRule) : Json :=
  .record [
    always "Name" r.policy.toJson,
    whenSome "MaximumRetryCount" .nat r.maxRetries]

end RestartRule

namespace CreateRequest

/-- A list of texts, if it is not empty. -/
def texts? (list : List String) : Option Json :=
  if list.isEmpty then none else some (.array (list.map .string))

/-- A map, if it is not empty. -/
def map? {α : Type} (encode : α → Json) (m : KeyMap α) : Option Json :=
  if m.entries.isEmpty then none else some (.ofKeyMap encode m)

def hostConfig (r : CreateRequest) : Json :=
  .record [
    whenSome "PortBindings" id
      (map? (fun bindings => .array (bindings.map PortBinding.toJson)) (portBindings r.ports)),
    whenSome "Binds" id (texts? (r.mounts.map MountRequest.bind)),
    always "RestartPolicy" r.restart.body]

def body (r : CreateRequest) : Json :=
  .record [
    always "Image" (.string r.image),
    whenSome "Env" id (texts? r.env),
    whenSome "Cmd" (fun c => .array (c.map .string)) r.command,
    whenSome "WorkingDir" .string r.workingDir,
    whenSome "User" .string r.user,
    whenSome "ExposedPorts" id (map? (fun _ => .object []) (portBindings r.ports)),
    always "HostConfig" r.hostConfig]

end CreateRequest

end HostAgent
