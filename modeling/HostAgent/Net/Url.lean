import HostAgent.Decimal.Power
import HostAgent.Net.Domain
import HostAgent.Net.IpAddress
import HostAgent.Net.Percent

/-!
# Addresses of resources

An address has a scheme, perhaps an authority (user, host, port), a path, and
perhaps a query and a fragment. Reading one takes a text and perhaps a base:
a text without scheme is meant relative to the base. The rules are those of the
web: blanks around the text and line breaks inside it do not count, a backslash
is a slash in the schemes of the web, `.` and `..` are resolved, and characters
that cannot stand for themselves are percent-encoded.

The path of a hierarchical address is the list of its segments: `/a/` has the
segments `a` and the empty one.
-/

namespace HostAgent

/-- Why a text is no address. -/
inductive UrlError
  | relativeWithoutBase
  | relativeToRootless
  | emptyHost
  | invalidPort
  | invalidIpv4
  | invalidIpv6
  | invalidDomain
  | forbiddenHostCharacter
deriving DecidableEq, Repr

def UrlError.message : UrlError → String
  | relativeWithoutBase => "relative URL without a base"
  | relativeToRootless => "relative URL with a cannot-be-a-base base"
  | emptyHost => "empty host"
  | invalidPort => "invalid port number"
  | invalidIpv4 => "invalid IPv4 address"
  | invalidIpv6 => "invalid IPv6 address"
  | invalidDomain => "invalid international domain name"
  | forbiddenHostCharacter => "invalid domain character"

structure Url.Authority where
  username : String
  password : Option String
  host : String
  port : Option Nat
deriving DecidableEq, Repr

inductive Url.Path
  /-- A path that is no hierarchy, such as that of `mailto:a`. -/
  | rootless (text : String)
  | segments (list : List String)
deriving DecidableEq, Repr

structure Url where
  scheme : String
  authority : Option Url.Authority
  path : Url.Path
  query : Option String
  fragment : Option String
deriving DecidableEq, Repr

namespace Url

/-! ## Schemes -/

inductive SchemeKind
  | file
  /-- A scheme of the web, with its usual port. -/
  | web (port : Nat)
  | other
deriving DecidableEq, Repr

def SchemeKind.of (scheme : String) : SchemeKind :=
  match scheme with
  | "http" | "ws" => .web 80
  | "https" | "wss" => .web 443
  | "ftp" => .web 21
  | "file" => .file
  | _ => .other

def SchemeKind.isOther : SchemeKind → Bool
  | .other => true
  | _ => false

/-- Slash, and backslash except in other schemes. -/
def SchemeKind.isSlash (k : SchemeKind) (c : Char) : Bool :=
  c == '/' || (!k.isOther && c == '\\')

def isAnySlash (c : Char) : Bool := c == '/' || c == '\\'

/-- The scheme of a text in small letters, and what follows its colon. -/
def scheme? (cs : List Char) : Option (String × List Char) :=
  match cs with
  | [] => none
  | c :: _ =>
    let isSchemeChar (c : Char) : Bool := c.isAlphanum || c == '+' || c == '-' || c == '.'
    match cs.dropWhile isSchemeChar with
    | ':' :: rest =>
      if c.isAlpha then
        some (String.ofList ((cs.takeWhile isSchemeChar).map Char.toLower), rest)
      else none
    | _ => none

/-! ## Parts of a reference -/

/-- A text after its scheme: what comes before the query, the query, and the fragment. -/
structure Reference where
  body : List Char
  query : Option (List Char)
  fragment : Option (List Char)

def Reference.of (cs : List Char) : Reference :=
  let isEnd (c : Char) : Bool := c == '?' || c == '#'
  let body := cs.takeWhile (!isEnd ·)
  match cs.dropWhile (!isEnd ·) with
  | '?' :: rest =>
    let query := rest.takeWhile (· != '#')
    match rest.dropWhile (· != '#') with
    | [] => ⟨body, some query, none⟩
    | _ :: fragment => ⟨body, some query, some fragment⟩
  | _ :: fragment => ⟨body, none, some fragment⟩
  | [] => ⟨body, none, none⟩

def fragmentExtra : List Char := [' ', '"', '<', '>', '`']

def pathExtra : List Char := fragmentExtra ++ ['#', '?', '{', '}']

def userinfoExtra : List Char :=
  pathExtra ++ ['/', ':', ';', '=', '@', '[', '\\', ']', '^', '|']

def queryExtra (k : SchemeKind) : List Char :=
  [' ', '"', '#', '<', '>'] ++ if k.isOther then [] else ['\'']

def Reference.queryText (r : Reference) (k : SchemeKind) : Option String :=
  r.query.map (Percent.encode (queryExtra k))

def Reference.fragmentText (r : Reference) : Option String :=
  r.fragment.map (Percent.encode fragmentExtra)

/-! ## Paths -/

/-- A letter and a colon, or a bar that stands for it. -/
def isDriveLetter : List Char → Bool
  | [a, b] => a.isAlpha && (b == ':' || b == '|')
  | _ => false

/-- A letter and a colon. -/
def isDrive (segment : String) : Bool :=
  match segment.toList with
  | [a, b] => a.isAlpha && b == ':'
  | _ => false

/-- Does the text start with the segment of a drive? -/
def startsWithDrive : List Char → Bool
  | a :: b :: rest =>
    isDriveLetter [a, b] && (match rest with | [] => true | c :: _ => isAnySlash c)
  | _ => false

/-- A segment with its encoded dots read. -/
def dots (segment : List Char) : List Char :=
  match segment with
  | '%' :: '2' :: 'e' :: rest | '%' :: '2' :: 'E' :: rest => '.' :: dots rest
  | c :: rest => c :: dots rest
  | [] => []

/-- The pieces of a path between its slashes. -/
def pieces (k : SchemeKind) : List Char → List (List Char)
  | [] => [[]]
  | c :: cs =>
    match pieces k cs with
    | [] => [[c]]
    | piece :: rest => if k.isSlash c then [] :: piece :: rest else (c :: piece) :: rest

/-- Segments without the last one; the drive of a file stays. -/
def parent (k : SchemeKind) (segments : List String) : List String :=
  match segments.getLast? with
  | some last => if k = .file && isDrive last then segments else segments.dropLast
  | none => segments

/-- One more piece of a path; `last` tells that no slash follows it. -/
def step (k : SchemeKind) (segments : List String) (piece : List Char) (last : Bool) :
    List String :=
  let closed (segments : List String) : List String := if last then segments ++ [""] else segments
  if dots piece = ['.', '.'] then closed (parent k segments)
  else if dots piece = ['.'] then closed segments
  else if k = .file && segments.isEmpty && isDriveLetter piece then
    segments ++ [String.ofList (piece.take 1 ++ [':'])]
  else segments ++ [Percent.encode pathExtra piece]

def walkPieces (k : SchemeKind) (segments : List String) : List (List Char) → List String
  | [] => segments
  | [piece] => step k segments piece true
  | piece :: rest => walkPieces k (step k segments piece false) rest

/-- The segments reached from others along a path. A file path has no empty segments in front. -/
def walk (k : SchemeKind) (segments : List String) (path : List Char) : List String :=
  let reached := walkPieces k segments (pieces k path)
  if k = .file then
    match reached.dropWhile (· == "") with
    | [] => [""]
    | rest => rest
  else reached

/-! ## Hosts -/

/-- A part of an address by numbers: octal after `0`, hexadecimal after `0x`. -/
def ipv4Part? (part : List Char) : Option Nat :=
  let digits (base : Nat) (cs : List Char) : Option Nat :=
    if cs.all fun c => (IpAddress.digit? base c).isSome then
      some (IpAddress.ofDigits base (cs.filterMap (IpAddress.digit? base)))
    else none
  match part with
  | [] => none
  | '0' :: 'x' :: cs | '0' :: 'X' :: cs => digits 16 cs
  | '0' :: c :: cs => digits 8 (c :: cs)
  | cs => digits 10 cs

/-- The parts of a domain, without the empty one after a final full stop. -/
def domainParts (domain : String) : List (List Char) :=
  let parts := Domain.splitOn '.' domain.toList
  if parts.getLast? = some [] then parts.dropLast else parts

/-- Is the last part a number? Then the domain is an address by numbers. -/
def endsInNumber (domain : String) : Bool :=
  match (domainParts domain).getLast? with
  | none => false
  | some last => (!last.isEmpty && last.all Char.isDigit) || (ipv4Part? last).isSome

/-- The address of up to four numbers; the last one fills what remains. -/
def ipv4? (domain : String) : Option IpAddress := do
  let numbers ← (domainParts domain).mapM ipv4Part?
  let last ← numbers.getLast?
  let front := numbers.dropLast
  if front.length ≤ 3 && front.all (· < 256) && last < twoPow (8 * (4 - front.length)) then
    let high := front.zipIdx.foldl (fun n p => n + p.1 * twoPow (8 * (3 - p.2))) 0
    let n := high + last
    some (.v4 [n / twoPow 24, n / twoPow 16 % 256, n / 256 % 256, n % 256])
  else none

/-- An address in brackets. -/
def bracketed (cs : List Char) : Except UrlError String :=
  if cs.getLast? = some ']' then
    match IpAddress.eightGroups? cs.dropLast with
    | some (groups, []) => .ok ("[" ++ IpAddress.shortened groups ++ "]")
    | _ => .error .invalidIpv6
  else .error .invalidIpv6

/-- The host of a scheme of the web. -/
def webHost (cs : List Char) : Except UrlError String :=
  match cs with
  | '[' :: cs => bracketed cs
  | cs =>
    match (Percent.decode? cs).bind Domain.ascii? with
    | none => .error .invalidDomain
    | some domain =>
      if domain = "" then .error .emptyHost
      else if endsInNumber domain then
        match ipv4? domain with
        | some address => .ok address.render
        | none => .error .invalidIpv4
      else .ok domain

/-- The host of another scheme. -/
def otherHost (cs : List Char) : Except UrlError String :=
  match cs with
  | '[' :: cs => bracketed cs
  | cs =>
    if cs.any "\x00\t\n\r #/:<>?@[\\]^|".toList.contains then .error .forbiddenHostCharacter
    else .ok (Percent.encode [] cs)

/-! ## Authorities -/

/-- The characters of a host: up to a slash or a colon outside brackets. -/
def hostSpan (k : SchemeKind) (bracket : Bool) : List Char → List Char × List Char
  | [] => ([], [])
  | c :: cs =>
    if k.isSlash c || (c == ':' && !bracket) then ([], c :: cs)
    else
      let inside := if c == '[' then true else if c == ']' then false else bracket
      let (span, rest) := hostSpan k inside cs
      (c :: span, rest)

/-- The user of an authority: the text before its last `@`, and the text after it. -/
def userSpan (authority : List Char) : Option (List Char × List Char) :=
  if authority.contains '@' then
    let reversed := authority.reverse
    some (((reversed.dropWhile (· != '@')).drop 1).reverse,
      (reversed.takeWhile (· != '@')).reverse)
  else none

/-- Name and password; an empty password is none. -/
def credentials (user : List Char) : String × Option String :=
  let encode := Percent.encode userinfoExtra
  match user.dropWhile (· != ':') with
  | _ :: c :: password => (encode (user.takeWhile (· != ':')), some (encode (c :: password)))
  | _ => (encode (user.takeWhile (· != ':')), none)

/-- A port after its colon, and the text after it. The usual port of the scheme is left out. -/
def portAfter (k : SchemeKind) (cs : List Char) : Except UrlError (Option Nat × List Char) :=
  let digits := cs.takeWhile Char.isDigit
  let rest := cs.dropWhile Char.isDigit
  let number := IpAddress.ofDigits 10 (digits.filterMap (IpAddress.digit? 10))
  if 65535 < number ∨ !(match rest with | [] => true | c :: _ => isAnySlash c) then
    .error .invalidPort
  else if digits.isEmpty ∨ k = .web number then .ok (none, rest)
  else .ok (some number, rest)

/-- An authority after its two slashes, and the text after it. `more` tells that a query or a
fragment follows the text. -/
def Authority.read (k : SchemeKind) (body : List Char) (more : Bool) :
    Except UrlError (Authority × List Char) := do
  let front := body.takeWhile (!k.isSlash ·)
  let behind := body.dropWhile (!k.isSlash ·)
  let (user, rest) := (userSpan front).getD ([], front)
  if (userSpan front).isSome && user.isEmpty && rest.isEmpty && (!behind.isEmpty || more) then
    throw .emptyHost
  let (username, password) := credentials user
  let (span, rest) := hostSpan k false (rest ++ behind)
  if !k.isOther && span.isEmpty then throw .emptyHost
  let host ← if k.isOther then otherHost span else webHost span
  match rest with
  | ':' :: rest =>
    if host = "" then throw .emptyHost
    let (port, rest) ← portAfter k rest
    return (⟨username, password, host, port⟩, rest)
  | rest =>
    if host = "" && (username ≠ "" || password.isSome) then throw .emptyHost
    return (⟨username, password, host, none⟩, rest)

/-- The path after an authority. -/
def pathAfter (k : SchemeKind) (rest : List Char) : List String :=
  match rest with
  | [] => if k.isOther then [] else [""]
  | c :: cs => if k.isSlash c then walk k [] cs else walk k [] (c :: cs)

/-- An address from its scheme and the text after the two slashes. -/
def withAuthority (scheme : String) (body : List Char) (r : Reference) : Except UrlError Url := do
  let k := SchemeKind.of scheme
  let (a, rest) ← Authority.read k body (r.query.isSome || r.fragment.isSome)
  return ⟨scheme, some a, .segments (pathAfter k rest), r.queryText k, r.fragmentText⟩

/-! ## Relative references -/

/-- The segments of a path; one that is no hierarchy has none. -/
def pathSegments (u : Url) : List String :=
  match u.path with
  | .rootless _ => []
  | .segments list => list

/-- A reference relative to a base that is a hierarchy. -/
def relative (base : Url) (r : Reference) : Except UrlError Url :=
  let k := SchemeKind.of base.scheme
  let at_ (segments : List String) : Url :=
    { base with path := .segments segments, query := r.queryText k, fragment := r.fragmentText }
  match r.body with
  | [] =>
    .ok { base with query := (r.queryText k).or base.query, fragment := r.fragmentText }
  | '/' :: '/' :: body => withAuthority base.scheme body r
  | c :: rest =>
    if isAnySlash c then
      if (match rest with | d :: _ => isAnySlash d | [] => false) then
        withAuthority base.scheme (rest.dropWhile isAnySlash) r
      else .ok (at_ (walk k [] rest))
    else .ok (at_ (walk k base.pathSegments.dropLast (c :: rest)))

/-! ## Files -/

/-- An authority that is a host alone. -/
def hostAlone (host : String) : Authority := ⟨"", none, host, none⟩

/-- The address of a file. A drive at the start of the path leaves no host. -/
def ofFile (base : Option Url) (r : Reference) : Except UrlError Url := do
  let k := SchemeKind.file
  let at_ (host : String) (segments : List String) : Url :=
    ⟨"file", some (hostAlone host), .segments segments, r.queryText k, r.fragmentText⟩
  let baseHost := ((base.bind Url.authority).map Authority.host).getD ""
  let baseSegments := (base.map pathSegments).getD []
  match r.body with
  | [] =>
    match base with
    | none => return at_ "" (walk k [] [])
    | some base =>
      return { base with query := (r.queryText k).or base.query, fragment := r.fragmentText }
  | c :: rest =>
    if isAnySlash c then
      if rest.head?.any isAnySlash then
        let body := rest.drop 1
        let span := body.takeWhile (!isAnySlash ·)
        if isDriveLetter span || span.isEmpty then return at_ "" (walk k [] body)
        let h ← webHost span
        let segments := walk k [] (body.dropWhile (!isAnySlash ·))
        return at_ (if h = "localhost" || segments.head?.any isDrive then "" else h) segments
      else if startsWithDrive rest then return at_ "" (walk k [] rest)
      else if baseSegments.head?.any isDrive then
        return at_ "" (walk k (baseSegments.take 1) rest)
      else return at_ baseHost (walk k [] rest)
    else if base.isSome && !startsWithDrive r.body then
      return at_ baseHost (walk k (parent k baseSegments) r.body)
    else return at_ "" (walk k [] r.body)

/-! ## Reading -/

/-- The text without blanks and controls at its ends and without line breaks and tabs. -/
def cleaned (text : String) : List Char :=
  (Text.trimBoth (fun c => c.toNat ≤ 0x20) text.toList).filter fun c =>
    c != '\t' && c != '\n' && c != '\r'

/-- The address after its scheme. -/
def afterScheme (base : Option Url) (scheme : String) (cs : List Char) : Except UrlError Url :=
  let r := Reference.of cs
  match SchemeKind.of scheme with
  | .file => ofFile (base.filter fun b => b.scheme == "file") r
  | .web _ =>
    let slashes := (r.body.takeWhile isAnySlash).length
    match base with
    | some base =>
      if slashes < 2 && base.scheme = scheme then relative base r
      else withAuthority scheme (r.body.dropWhile isAnySlash) r
    | none => withAuthority scheme (r.body.dropWhile isAnySlash) r
  | .other =>
    let at_ (path : Path) : Url := ⟨scheme, none, path, r.queryText .other, r.fragmentText⟩
    match r.body with
    | '/' :: '/' :: body => withAuthority scheme body r
    | '/' :: body => .ok (at_ (.segments (walk .other [] body)))
    | body => .ok (at_ (.rootless (Percent.encode [] body)))

/-- A text without scheme, relative to a base. -/
def withoutScheme (base : Url) (cs : List Char) : Except UrlError Url :=
  match cs with
  | '#' :: fragment => .ok { base with fragment := some (Percent.encode fragmentExtra fragment) }
  | cs =>
    match base.path with
    | .rootless _ => .error .relativeToRootless
    | .segments _ =>
      if base.scheme = "file" then ofFile (some base) (Reference.of cs)
      else relative base (Reference.of cs)

/-- The address that a text is, perhaps relative to a base. -/
def read (base : Option Url) (text : String) : Except UrlError Url :=
  let cs := cleaned text
  match scheme? cs with
  | some (scheme, rest) => afterScheme base scheme rest
  | none =>
    match base with
    | some base => withoutScheme base cs
    | none => .error .relativeWithoutBase

def parse (text : String) : Except UrlError Url := read none text

/-- The address that a text means relative to this one. -/
def join (base : Url) (text : String) : Except UrlError Url := read (some base) text

/-! ## Writing -/

def pathText : Path → String
  | .rootless text => text
  | .segments list => String.join (list.map ("/" ++ ·))

def Authority.text (a : Authority) : String :=
  let user := a.username ++ (match a.password with | some p => ":" ++ p | none => "")
  "//" ++ (if user = "" then "" else user ++ "@") ++ a.host ++
    (match a.port with | some p => ":" ++ toString p | none => "")

/-- A path that would look like an authority gets a dot in front. -/
def needsDot (u : Url) : Bool :=
  match u.authority, u.path with
  | none, .segments ("" :: _ :: _) => true
  | _, _ => false

/-- The address without its fragment. -/
def renderBare (u : Url) : String :=
  u.scheme ++ ":" ++ ((u.authority.map Authority.text).getD "") ++
    (if u.needsDot then "/." else "") ++ pathText u.path ++
    (match u.query with | some q => "?" ++ q | none => "")

def render (u : Url) : String :=
  u.renderBare ++ (match u.fragment with | some f => "#" ++ f | none => "")

end Url

end HostAgent
