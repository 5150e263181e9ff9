import HostAgent.Engine.Error
import HostAgent.Text.Blank

/-!
# Where the engine is

The address of the container engine: the local default, a socket in the file
system, or a host on the network. It is read from a setting; blanks around it do
not count, and an empty setting is the local default.
-/

namespace HostAgent

inductive EngineEndpoint
  | local
  | socket (path : String)
  | network (address : String)
deriving DecidableEq, Repr

namespace EngineEndpoint

/-- What the endpoint is called in messages. -/
def label : EngineEndpoint → String
  | .local => "local"
  | .socket path => "unix://" ++ path
  | .network address => address

/-- The endpoint of a setting. -/
def read (setting : String) : Except EngineError EngineEndpoint :=
  let s := Text.trim setting
  if s = "" ∨ s = "local" then .ok .local
  else
    match Text.stripStart? "unix://" s with
    | some path => .ok (.socket path)
    | none =>
      if Text.startsWith "tcp://" s || Text.startsWith "http://" s then .ok (.network s)
      else if Text.startsWith "ssh://" s then
        .error (.unavailable (s ++ ": ssh transport is not built in; open the tunnel externally " ++
          "and point runtime_endpoint at the forwarded unix socket"))
      else if Text.startsWith "/" s then .ok (.socket s)
      else .error (.unavailable ("unsupported runtime endpoint: " ++ s))

end EngineEndpoint

end HostAgent
