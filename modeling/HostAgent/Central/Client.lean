import HostAgent.Central.Error

/-!
# The address of the central server

All resources of the central server are named relative to one base address,
which always ends in a slash, so that a relative path extends it.
-/

namespace HostAgent

/-- How to reach the central server: its address, and a token for every request. -/
structure CentralClient where
  base : Url
  token : Option String
deriving DecidableEq, Repr

namespace CentralClient

/-- A text with a slash at its end. -/
def closed (text : String) : String :=
  if text.toList.getLast? = some '/' then text else text ++ "/"

/-- The client of a base address. An empty token is none. -/
def create (baseUrl : String) (token : Option String) : Except CentralError CentralClient :=
  match Url.parse (closed (Text.trim baseUrl)) with
  | .ok base => .ok ⟨base, Text.nonEmpty? token⟩
  | .error e => .error (.url e)

/-- The address of a resource; slashes at the start of its path do not count. -/
def resolve (c : CentralClient) (path : String) : Except CentralError Url :=
  (c.base.join (Text.dropLeading '/' path)).mapError .url

end CentralClient

end HostAgent
