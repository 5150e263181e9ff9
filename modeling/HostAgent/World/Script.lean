import HostAgent.Central.Session
import HostAgent.Engine.Api

/-!
# Scripted servers

A server that answers from a script: a route answers every request for its method
and path, all other requests get the next of the single answers, and 404 once
these are used up. An answer is a response, a broken connection, or silence.
-/

namespace HostAgent

inductive ScriptedAnswer
  | response (status : UInt16) (body : String)
  | dropped
  /-- No answer ever. -/
  | silent
deriving DecidableEq, Repr

/-- A route of a script. -/
structure ScriptedRoute where
  method : String
  path : String
  answer : ScriptedAnswer
deriving DecidableEq, Repr

structure Script where
  routes : List ScriptedRoute
  answers : List ScriptedAnswer
deriving DecidableEq, Repr

/-! ## In JSON -/

private def textOf (name : String) (j : Json) : Option String :=
  match j.get? name with
  | some (.string s) => some s
  | _ => none

private def itemsOf (name : String) (j : Json) : List Json :=
  match j.get? name with
  | some (.array items) => items
  | _ => []

/-- An answer: its `status` and its `text` or its `body`, which is any value; or `drop` or
`hang`. -/
def ScriptedAnswer.ofJson (j : Json) : ScriptedAnswer :=
  if j.get? "drop" = some (.bool true) then .dropped
  else if j.get? "hang" = some (.bool true) then .silent
  else
    let status := match j.get? "status" with
      | some (.number (.int n)) => n.toNat.toUInt16
      | _ => 200
    .response status ((textOf "text" j).getD (((j.get? "body").map Json.render).getD ""))

/-- A script: its `routes`, each with `method`, `path` and an answer, and its `responses`. -/
def Script.ofJson (j : Json) : Script :=
  { routes := (itemsOf "routes" j).map fun r =>
      ⟨(textOf "method" r).getD "GET", (textOf "path" r).getD "", .ofJson r⟩
    answers := (itemsOf "responses" j).map .ofJson }

/-! ## Answers -/

namespace Script

/-- Does a response carry no body, whatever the script says? -/
def isBodiless (method : String) (status : UInt16) : Bool :=
  method == "HEAD" || status == 204 || status == 304

def forMethod (method : String) : ScriptedAnswer → ScriptedAnswer
  | .response status body => .response status (if isBodiless method status then "" else body)
  | a => a

/-- The answer to a request, whose path may be written in some ways, and the script after it. -/
def answer (s : Script) (method : String) (paths : List String) : ScriptedAnswer × Script :=
  match s.routes.find? fun r => r.method == method && paths.contains r.path with
  | some route => (forMethod method route.answer, s)
  | none =>
    match s.answers with
    | a :: rest => (forMethod method a, { s with answers := rest })
    | [] => (.response 404 "", s)

end Script

/-! ## A central server with a script -/

/-- A scripted central server, the clock, and what is known about the ignore list. -/
structure ScriptedCentral where
  script : Script
  now : Duration
  cache : IgnoreCache
  /-- Requests received, newest first. -/
  requests : List HttpRequest
  /-- Did a request stay without an answer? -/
  isStuck : Bool
deriving Repr

namespace ScriptedCentral

def start (script : Script) (lifetime : Duration) : ScriptedCentral :=
  ⟨script, .zero, .empty lifetime, [], false⟩

/-- An address with and without its query. -/
def paths (u : Url) : List String :=
  [u.renderBare, { u with query := none }.renderBare]

/-- Only plain connections reach the server. -/
def receive (s : ScriptedCentral) (r : HttpRequest) : Option HttpResponse × ScriptedCentral :=
  if r.url.scheme ≠ "http" then (none, s)
  else
    let (answer, script) := s.script.answer r.method.name (paths r.url)
    let s := { s with script, requests := r :: s.requests }
    match answer with
    | .response status body => (some ⟨status, body⟩, s)
    | .dropped => (none, s)
    | .silent => (none, { s with isStuck := true })

/-- The reply to a step of a call. -/
def answer (s : ScriptedCentral) : (step : CentralStep) → step.Reply × ScriptedCentral
  | .send r => s.receive r
  | .sleep d => ((), { s with now := s.now + d })
  | .isKnown id => (s.cache.isKnown s.now id, s)
  | .remember id => ((), { s with cache := s.cache.remember s.now id })
  | .forget id => ((), { s with cache := s.cache.forget id })

/-- Make a call. -/
def run {α : Type} (s : ScriptedCentral) (e : Exchange α) :
    Except CentralError α × ScriptedCentral :=
  Program.run answer e.run s

end ScriptedCentral

/-! ## An engine with a script -/

/-- A scripted engine. -/
structure ScriptedEngine where
  script : Script
  /-- Requests received, newest first. -/
  requests : List HttpRequest
  /-- Did a request stay without an answer? -/
  isStuck : Bool
deriving Repr

namespace ScriptedEngine

def start (script : Script) : ScriptedEngine := ⟨script, [], false⟩

/-- The path of an address with and without its query. -/
def paths (u : Url) : List String :=
  let path := Url.pathText u.path
  [path ++ (match u.query with | some q => "?" ++ q | none => ""), path]

def answer (s : ScriptedEngine) (r : HttpRequest) : Option HttpResponse × ScriptedEngine :=
  let (answer, script) := s.script.answer r.method.name (paths r.url)
  let s := { s with script, requests := r :: s.requests }
  match answer with
  | .response status body => (some ⟨status, body⟩, s)
  | .dropped => (none, s)
  | .silent => (none, { s with isStuck := true })

/-- Make requests. -/
def run {α : Type} (s : ScriptedEngine) (w : ApiWork α) : α × ScriptedEngine :=
  Program.run answer w s

end ScriptedEngine

end HostAgent
