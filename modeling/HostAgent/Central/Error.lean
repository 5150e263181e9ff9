import HostAgent.Engine.Error
import HostAgent.Net.Url

/-!
# Errors of the central server

Why a call to the central server did not succeed: an answer that is no success,
no answer or one that makes no sense, an address that is none, or a record that
could be neither created nor found.
-/

namespace HostAgent

inductive CentralError
  | status (method url : String) (code : UInt16) (body : String)
  | transport
  | url (cause : UrlError)
  | conflict (id : String)
deriving DecidableEq, Repr

namespace CentralError

def status? : CentralError → Option UInt16
  | .status _ _ code _ => some code
  | _ => none

/-- May the same call succeed later? Only a bad address never does. -/
def isRetryable : CentralError → Bool
  | .url _ => false
  | _ => true

def message : CentralError → String
  | .status method address code body =>
    method ++ " " ++ address ++ " returned " ++ toString code.toNat ++ ": " ++ body
  | .transport => "request to central API failed"
  | .url cause => "invalid central API url: " ++ cause.message
  | .conflict id => "create of " ++ id ++ " conflicted and the record never became readable"

/-- The message, and below it the message of what caused the error. -/
def chain (e : CentralError) : List String :=
  e.message :: match e with
    | .url cause => [cause.message]
    | _ => []

end CentralError

/-- Why a container was not synced. -/
inductive SyncError
  | engine (cause : EngineError)
  | central (cause : CentralError)
deriving DecidableEq, Repr

def SyncError.message : SyncError → String
  | engine cause => cause.message
  | central cause => cause.message

instance : Coe EngineError SyncError := ⟨.engine⟩
instance : Coe CentralError SyncError := ⟨.central⟩

end HostAgent
