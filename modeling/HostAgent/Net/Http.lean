import HostAgent.Json.Value
import HostAgent.Net.Base64
import HostAgent.Net.Url

/-!
# Requests and responses

What is sent to a server and what it answers. A user in the address is sent as a
header instead; a token is sent in a header of its own.
-/

namespace HostAgent

inductive HttpMethod
  | get
  | head
  | put
  | post
  | delete
deriving DecidableEq, Repr

def HttpMethod.name : HttpMethod → String
  | get => "GET"
  | head => "HEAD"
  | put => "PUT"
  | post => "POST"
  | delete => "DELETE"

/-- A request. Its address has no user. -/
structure HttpRequest where
  method : HttpMethod
  url : Url
  /-- The `Authorization` headers, in order. -/
  authorization : List String
  body : Option Json
deriving DecidableEq, Repr

structure HttpResponse where
  status : UInt16
  body : String
deriving DecidableEq, Repr

/-- Does a status tell of success? -/
def isSuccessStatus (status : UInt16) : Bool := 200 ≤ status && status < 300

def HttpResponse.isSuccess (r : HttpResponse) : Bool := isSuccessStatus r.status

namespace HttpRequest

/-- Name and password of an address, read as text; nothing if they are empty or no text. -/
def user? (u : Url) : Option (String × String) := do
  let a ← u.authority
  if a.username = "" ∧ a.password = none then none
  let name ← Percent.decode? a.username.toList
  some (name, (a.password.bind fun p => Percent.decode? p.toList).getD "")

/-- The address without its user. -/
def withoutUser (u : Url) : Url :=
  { u with authority := u.authority.map fun a => { a with username := "", password := none } }

/-- Can a text be the value of a header? Only controls cannot. -/
def isHeaderText (s : String) : Bool :=
  s.toList.all fun c => c == '\t' || (0x20 ≤ c.toNat && c.toNat ≠ 0x7F)

/-- A request, unless it cannot be sent: addresses are those of the web, and a token is the text
of a header. -/
def create? (method : HttpMethod) (url : Url) (token : Option String) (body : Option Json) :
    Option HttpRequest :=
  if (url.scheme = "http" ∨ url.scheme = "https") ∧ token.all isHeaderText then
    let basic := (user? url).map fun (name, password) =>
      "Basic " ++ Base64.encode (name ++ ":" ++ password)
    some
      { method, url := withoutUser url, body
        authorization := basic.toList ++ (token.map ("Bearer " ++ ·)).toList }
  else none

end HttpRequest

end HostAgent
