import HostAgent.Central.Client
import HostAgent.Json.Decode
import HostAgent.Net.Form
import HostAgent.Net.Http
import HostAgent.Time.Duration
import HostAgent.Work.Program

/-!
# Exchanges with the central server

A call to the central server is a program over single steps: a request that is
sent, a wait, and what is known about the ignore list. This module has the forms
of exchange that calls are made of. A request gets a response or none; a status
that tells of no success is an error of its own in most forms, with the text of
the response.
-/

namespace HostAgent

/-- A single step of a call. -/
inductive CentralStep
  | send (request : HttpRequest)
  | sleep (duration : Duration)
  /-- Is the container known not to be ignored? -/
  | isKnown (id : String)
  | remember (id : String)
  | forget (id : String)
deriving Repr

/-- What a step yields. A request may get no response. -/
@[reducible] def CentralStep.Reply : CentralStep → Type
  | send _ => Option HttpResponse
  | isKnown _ => Bool
  | sleep _ | remember _ | forget _ => Unit

/-- A program of steps that may fail. -/
abbrev Exchange (α : Type) : Type := ExceptT CentralError (Program CentralStep.Reply) α

namespace Exchange

/-- A single step. -/
def step (s : CentralStep) : Exchange s.Reply := ExceptT.lift (.question s)

/-- Go on with the outcome of an exchange, whether it failed or not. -/
def outcome {α : Type} (e : Exchange α) : Exchange (Except CentralError α) :=
  ExceptT.lift e.run

end Exchange

namespace CentralClient

open Exchange (step)

/-- Send a request to an address. -/
def send (c : CentralClient) (method : HttpMethod) (url : Url) (body : Option Json) :
    Exchange HttpResponse := do
  match HttpRequest.create? method url c.token body with
  | none => throw .transport
  | some request =>
    match ← step (.send request) with
    | some response => return response
    | none => throw .transport

/-- The error text of a response, without a byte order mark in front. -/
def errorText (r : HttpResponse) : String :=
  match r.body.toList with
  | '\ufeff' :: text => String.ofList text
  | _ => r.body

/-- Send a request; only a status of success is no error. -/
def sendSuccessfully (c : CentralClient) (method : HttpMethod) (url : Url) (body : Option Json) :
    Exchange HttpResponse := do
  let response ← c.send method url body
  if response.isSuccess then return response
  else throw (.status method.name url.render response.status (errorText response))

/-- The status that a resource answers with. -/
def statusOf (c : CentralClient) (method : HttpMethod) (path : String) : Exchange UInt16 := do
  return (← c.send method (← c.resolve path) none).status

/-- What a response says; one that makes no sense is none. -/
def read {α : Type} (d : Json.Decoder α) (r : HttpResponse) : Exchange α :=
  match Json.decodeText d r.body with
  | .ok a => return a
  | .error _ => throw .transport

/-- Get and read a resource. -/
def get {α : Type} (c : CentralClient) (d : Json.Decoder α) (path : String) : Exchange α := do
  read d (← c.sendSuccessfully .get (← c.resolve path) none)

/-- An address with more pairs in its query. -/
def withPairs (url : Url) (pairs : List (String × String)) : Url :=
  { url with query := some (Form.extend (url.query.getD "") pairs) }

/-- Get and read a resource with a query. -/
def getWith {α : Type} (c : CentralClient) (d : Json.Decoder α) (path : String)
    (pairs : List (String × String)) : Exchange α := do
  read d (← c.sendSuccessfully .get (withPairs (← c.resolve path) pairs) none)

/-- Send a value; the response may have any status. -/
def submit (c : CentralClient) (method : HttpMethod) (path : String) (value : Json) :
    Exchange HttpResponse := do
  c.send method (← c.resolve path) (some value)

/-- Send a value successfully. -/
def put (c : CentralClient) (method : HttpMethod) (path : String) (value : Json) :
    Exchange Unit := do
  let _ ← c.sendSuccessfully method (← c.resolve path) (some value)

/-- The error of a status that a path answered with. -/
def refuse {α : Type} (c : CentralClient) (method : HttpMethod) (path : String) (status : UInt16)
    (body : String) : Exchange α := do
  throw (.status method.name (← c.resolve path).render status body)

/-- Delete a resource; that there is none is no error. -/
def delete (c : CentralClient) (path : String) : Exchange Unit := do
  let url ← c.resolve path
  let response ← c.send .delete url none
  if response.status = 404 ∨ response.isSuccess then return ()
  else throw (.status HttpMethod.delete.name url.render response.status (errorText response))

end CentralClient

end HostAgent
