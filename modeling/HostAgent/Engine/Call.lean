import HostAgent.CreateRequest
import HostAgent.Engine.Error
import HostAgent.Host

/-!
# Calls to the container engine

Everything the agent asks of the engine, and what it gets in return. Each call
may fail. Opening a subscription never does, since it first shows when its
events are asked for.
-/

namespace HostAgent

inductive EngineCall
  | ping
  | systemInfo
  /-- The containers, those that do not run included if `all` is set. -/
  | list (all : Bool)
  | inspect (id : String)
  /-- Does the image exist locally? If not, the call fails. -/
  | inspectImage (image : String)
  | pull (image : String)
  | create (request : CreateRequest)
  | start (id : String)
  | stop (id : String) (timeoutSecs : Nat)
  | restart (id : String) (timeoutSecs : Nat)
  | remove (id : String) (force volumes : Bool)
deriving DecidableEq, Repr

namespace EngineCall

/-- What a call yields if it succeeds. -/
@[reducible] def Result : EngineCall → Type
  | ping | inspectImage _ | pull _ | start _ | stop .. | restart .. | remove .. => Unit
  | systemInfo => SystemInfo
  | list _ => List ContainerRef
  | inspect _ => ContainerDetail
  | create _ => String

abbrev Reply (c : EngineCall) : Type := Except EngineError c.Result

end EngineCall

end HostAgent
