/-!
# Errors of the container engine

Why a call to the engine did not succeed. Two of the causes are no failures for
most callers: that the container is gone, and that it already is in the state
asked for.
-/

namespace HostAgent

inductive EngineError
  /-- The container does not exist any more. -/
  | notFound (id : String)
  /-- The container already is in the state asked for. -/
  | notModified (id : String)
  | imageNotFound (image : String)
  | unavailable (reason : String)
  | operation (name target message : String)
deriving DecidableEq, Repr

namespace EngineError

def isNotFound : EngineError → Bool
  | notFound _ => true
  | _ => false

def isNotModified : EngineError → Bool
  | notModified _ => true
  | _ => false

def message : EngineError → String
  | notFound id => "container not found: " ++ id
  | notModified id => "container already in requested state: " ++ id
  | imageNotFound image => "image not present locally: " ++ image
  | unavailable reason => "runtime unavailable: " ++ reason
  | operation name target message => name ++ " failed for " ++ target ++ ": " ++ message

end EngineError

/-- Why a task was not carried out. -/
inductive TaskError
  | missingSpec (kind : String)
  | missingContainerId (kind : String)
  | engine (cause : EngineError)
deriving DecidableEq, Repr

def TaskError.message : TaskError → String
  | missingSpec kind => kind ++ " task carries no container spec"
  | missingContainerId kind => kind ++ " task carries no container id"
  | engine cause => cause.message

instance : Coe EngineError TaskError := ⟨.engine⟩

end HostAgent
