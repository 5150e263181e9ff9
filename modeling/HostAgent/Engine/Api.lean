import HostAgent.Decimal.Power
import HostAgent.Engine.Call
import HostAgent.Engine.CreateBody
import HostAgent.Engine.Endpoint
import HostAgent.Engine.Image
import HostAgent.Engine.Inspection
import HostAgent.Engine.LineStream
import HostAgent.Net.Form
import HostAgent.Net.Http
import HostAgent.Work.Program

/-!
# The interface of the engine

How each call to the engine is carried out: one request, and a response that is
read. A status of success is 2xx, and 304, which says that there was nothing to
do. Ids and names of images stand in paths as they are.
-/

namespace HostAgent

open Json (Decoder Fields)

/-- Why a request to the engine came to nothing. -/
inductive ApiFault
  | status (code : UInt16) (message : String)
  /-- The engine reported an error in the course of a long response. -/
  | stream (text : String)
  | unreadable
  | unanswered
deriving DecidableEq, Repr

namespace ApiFault

def message : ApiFault → String
  | status code message =>
    "Docker responded with status code " ++ toString code.toNat ++ ": " ++ message
  | stream text => "Docker stream error: " ++ text
  | unreadable => "response could not be read"
  | unanswered => "no response"

/-- The error of an operation on a target. -/
def error (operation target : String) : ApiFault → EngineError
  | status 404 _ => .notFound target
  | status 304 _ => .notModified target
  | fault => .operation operation target fault.message

/-- The fault of a response without success: its message, or its whole text. -/
def ofResponse (r : HttpResponse) : ApiFault :=
  let errorMessage : Decoder String := (Fields.required "message" Decoder.string).decode
  if r.body = "" then .status r.status ""
  else
    match Json.decodeText errorMessage r.body with
    | .ok message => .status r.status message
    | .error .unfinished => .unreadable
    | .error _ => .status r.status r.body

end ApiFault

/-- A program of requests to the engine that may fail. -/
abbrev ApiExchange (α : Type) : Type :=
  ExceptT ApiFault (Program (fun _ : HttpRequest => Option HttpResponse)) α

/-- A program of requests to the engine. -/
abbrev ApiWork (α : Type) : Type := Program (fun _ : HttpRequest => Option HttpResponse) α

/-- An engine that requests are sent to. -/
structure EngineApi where
  endpoint : EngineEndpoint
deriving DecidableEq, Repr

namespace EngineApi

/-! ## Connecting -/

/-- A text without the occurrences of `start` in front. -/
def dropAllStarts (start : List Char) (fuel : Nat) (cs : List Char) : List Char :=
  match fuel, Text.after? start cs with
  | fuel + 1, some rest => dropAllStarts start fuel rest
  | _, _ => cs

/-- The socket of an endpoint, if it has one. -/
def socket? (localSocket : String) : EngineEndpoint → Option String
  | .local => some localSocket
  | .socket path =>
    some (String.ofList (dropAllStarts "unix://".toList path.length path.toList))
  | .network _ => none

/-- Connecting makes no request, but a socket must be present. -/
def connect (localSocket : String) (isPresent : String → Bool) (e : EngineEndpoint) :
    Except EngineError EngineApi :=
  match socket? localSocket e with
  | some path =>
    if isPresent path then .ok ⟨e⟩
    else
      .error (.unavailable ("failed to connect to " ++ e.label ++ ": Socket not found: " ++ path))
  | none => .ok ⟨e⟩

/-! ## Requests -/

/-- The address that paths are appended to. -/
def base (api : EngineApi) : String :=
  match api.endpoint with
  | .network address =>
    let host := (Text.stripStart? "tcp://" address).getD address
    "http://" ++ (Text.stripStart? "http://" host).getD host
  | _ => "unix://engine"

/-- The address of a path. A query takes the place of the one that the path may contain. -/
def address? (api : EngineApi) (path : String) (query : Option (List (String × String))) :
    Option Url :=
  match Url.parse (api.base ++ path) with
  | .ok url => some { url with query := (query.map (Form.extend "")).or url.query }
  | .error _ => none

/-- Send a request; the text of a successful response. -/
def send (api : EngineApi) (method : HttpMethod) (path : String)
    (query : Option (List (String × String)) := none) (body : Option Json := none) :
    ApiExchange String := do
  match api.address? path query with
  | none => throw .unanswered
  | some url =>
    match ← ExceptT.lift (.question ⟨method, url, [], body⟩) with
    | none => throw .unanswered
    | some response =>
      if response.isSuccess ∨ response.status = 304 then return response.body
      else throw (.ofResponse response)

/-- What a response says. -/
def read {α : Type} (d : Decoder α) (text : String) : ApiExchange α :=
  match Json.decodeText d text with
  | .ok a => return a
  | .error _ => throw .unreadable

/-- The reply to a call, whose faults are errors of an operation on a target. -/
def reply {α : Type} (operation target : String) (e : ApiExchange α) :
    ApiWork (Except EngineError α) :=
  e.run.bind fun r => .done (r.mapError (ApiFault.error operation target))

/-! ## Reading responses -/

def systemInfo : Decoder SystemInfo :=
  Fields.decodeObject <|
    (fun id name cores memory =>
      ⟨id.getD "", name.getD "", (cores.getD 0).toInt.toNat.toUInt32,
        (memory.getD 0).toInt.toNat.toUInt64⟩) <$>
      Fields.optionalNamed "ID" Decoder.string
    <*> Fields.optionalNamed "Name" Decoder.string
    <*> Fields.optionalNamed "NCPU" Decoder.int64
    <*> Fields.optionalNamed "MemTotal" Decoder.int64

/-- An item of a listing, unless it has no id. -/
def listed : Decoder (Option ContainerRef) :=
  Fields.decodeObject <|
    (fun id names => id.map fun id => ⟨id, bareName (names.bind List.head?)⟩) <$>
      Fields.optionalNamed "Id" Decoder.string
    <*> Fields.optionalNamed "Names" (.list .string)

def image : Decoder (Option String) :=
  Fields.decodeObject (Fields.optionalNamed "Id" Decoder.string)

/-- The id of a new container. -/
def created : Decoder String :=
  Fields.decodeObject <|
    (fun id (_ : Option (List String)) => id) <$>
      Fields.required "Id" Decoder.string
    <*> Fields.required "Warnings" (.option (.list .string))

/-- The error in a message on the course of a pull. -/
def pullError : Decoder (Option String) :=
  let detail : Decoder Unit := Fields.decodeObject <|
    (fun (_ : Option Int64) (_ : Option String) => ()) <$>
      Fields.optionalNamed "code" Decoder.int64
    <*> Fields.optionalNamed "message" Decoder.string
  let progress : Decoder Unit := Fields.decodeObject <|
    (fun (_ _ : Option Int64) => ()) <$>
      Fields.optionalNamed "current" Decoder.int64
    <*> Fields.optionalNamed "total" Decoder.int64
  Fields.decodeObject <|
    (fun (_ : Option String) error (_ : Option Unit) (_ _ : Option String) (_ : Option Unit) =>
      error) <$>
      Fields.optionalNamed "id" Decoder.string
    <*> Fields.optionalNamed "error" Decoder.string
    <*> Fields.optionalNamed "errorDetail" detail
    <*> Fields.optionalNamed "status" Decoder.string
    <*> Fields.optionalNamed "progress" Decoder.string
    <*> Fields.optionalNamed "progressDetail" progress

/-- A pull succeeds unless one of its messages is an error. -/
def pullOutcome (text : String) : Except ApiFault Unit :=
  (LineStream.values pullError text).forM fun message =>
    match message with
    | .ok none => .ok ()
    | .ok (some error) => .error (.stream error)
    | .error _ => .error .unreadable

/-! ## Events -/

/-- The kinds of things that events are about. -/
def eventTypes : List String :=
  ["", "builder", "config", "container", "daemon", "image", "network", "node", "plugin", "secret",
    "service", "volume"]

def eventScopes : List String := ["", "local", "swarm"]

/-- The id of what an event is about, and its name. -/
def actor : Decoder (Option String × Option String) :=
  Fields.decodeObject <|
    (fun id (attributes : Option (KeyMap String)) => (id, attributes.bind (·.get? "name"))) <$>
      Fields.optionalNamed "ID" Decoder.string
    <*> Fields.optionalNamed "Attributes" (.keyMap .string)

/-- An event of a container; other events are none. -/
def event : Decoder (Option LifecycleEvent) :=
  Fields.decodeObject <|
    (fun type action (actor : Option (Option String × Option String)) (_ : Option Unit)
        (time _ : Option Int64) =>
      if type = some "container" then
        actor.bind fun (id, name) => id.map fun containerId =>
          { action := action.getD "", containerId, name, time := time.map Int64.toInt }
      else none) <$>
      Fields.optionalNamed "Type" (.variant (eventTypes.map fun t => (t, t)))
    <*> Fields.optionalNamed "Action" Decoder.string
    <*> Fields.optionalNamed "Actor" actor
    <*> Fields.optionalNamed "scope" (.variant (eventScopes.map (·, ())))
    <*> Fields.optionalNamed "time" Decoder.int64
    <*> Fields.optionalNamed "timeNano" Decoder.int64

/-- The events of containers in a response. -/
def eventsOf (text : String) : List (Except ApiFault LifecycleEvent) :=
  (LineStream.values event text).filterMap fun message =>
    match message with
    | .ok none => none
    | .ok (some e) => some (.ok e)
    | .error _ => some (.error .unreadable)

/-- Only events of containers are asked for. -/
def eventFilter : Json := Json.ofMembers [("type", .array [.string "container"])]

/-- The events until the engine ends the subscription. -/
def events (api : EngineApi) : ApiWork (List (Except EngineError LifecycleEvent)) :=
  (api.send .get "/events" (some [("filters", eventFilter.render)])).run.bind fun r =>
    let items := match r with
      | .ok text => eventsOf text
      | .error fault => [.error fault]
    .done (items.map (·.mapError (ApiFault.error "events" api.endpoint.label)))

/-! ## Calls -/

def containerPath (id : String) : String := "/containers/" ++ id

/-- A time for stopping, as a number of 32 bits with a sign. -/
def seconds (n : Nat) : String := toString (min n (twoPow 31 - 1))

def flag (b : Bool) : String := if b then "true" else "false"

/-- The query that names what is pulled. -/
def pullQuery (i : ImageReference) : List (String × String) :=
  ("fromImage", i.repository) :: match i.tag with
    | some tag => [("tag", tag)]
    | none => []

/-- Success is all that counts. -/
def done (e : ApiExchange String) : ApiExchange Unit := do
  let _ ← e

/-- A call as requests. -/
def exchange (api : EngineApi) : (call : EngineCall) → ApiWork call.Reply
  | .ping =>
    (api.send .get "/_ping").run.bind fun r =>
      .done ((r.map fun _ => ()).mapError fun fault =>
        .unavailable ("cannot reach runtime at " ++ api.endpoint.label ++ ": " ++ fault.message))
  | .systemInfo =>
    reply "info" api.endpoint.label do
      read systemInfo (← api.send .get "/info")
  | .list all =>
    reply "list_containers" api.endpoint.label do
      let query := some [("all", flag all)]
      let items ← read (.list listed) (← api.send .get "/containers/json" query)
      return items.filterMap id
  | .inspect id =>
    reply "inspect_container" id do
      read (Inspection.detail id) (← api.send .get (containerPath id ++ "/json"))
  | .inspectImage name =>
    (reply "inspect_image" name do
      let _ ← read image (← api.send .get ("/images/" ++ name ++ "/json"))).bind fun r =>
        .done (r.mapError fun e => if e.isNotFound then .imageNotFound name else e)
  | .pull name =>
    reply "pull_image" name do
      let query := pullQuery (ImageReference.split name)
      ExceptT.mk (.done (pullOutcome (← api.send .post "/images/create" (some query))))
  | .create r =>
    reply "create_container" (r.name.getD r.image) do
      let query := r.name.map fun name => [("name", name)]
      read created (← api.send .post "/containers/create" query (some r.body))
  | .start id =>
    reply "start_container" id (done (api.send .post (containerPath id ++ "/start")))
  | .stop id n =>
    reply "stop_container" id
      (done (api.send .post (containerPath id ++ "/stop") (some [("t", seconds n)])))
  | .restart id n =>
    reply "restart_container" id
      (done (api.send .post (containerPath id ++ "/restart") (some [("t", seconds n)])))
  | .remove id force volumes =>
    reply "remove_container" id
      (done (api.send .delete (containerPath id)
        (some [("v", flag volumes), ("force", flag force)])))

end EngineApi

end HostAgent
