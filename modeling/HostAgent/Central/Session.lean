import HostAgent.Central.Call
import HostAgent.Central.Exchange
import HostAgent.Central.IgnoreCache

/-!
# Calls as exchanges

How each call to the central server is carried out. A container is synced by
asking whether it is ignored, then whether it has a record, and then updating or
creating the record. If the record turns out to exist although it was not found,
it is looked for again some times, with a wait that doubles, and updated.
-/

namespace HostAgent

open Exchange (step)

/-- How calls are made. -/
structure CentralSettings where
  baseUrl : String
  token : Option String
  requestTimeout : Duration
  /-- How long it is known that a container is not ignored. -/
  ignoreLifetime : Duration
  /-- How often a record in conflict is looked for. -/
  conflictRetries : Nat
  /-- The first wait before that; it doubles. -/
  conflictBackoff : Duration
deriving DecidableEq, Repr

/-- A client, and how it deals with conflicts. -/
structure CentralSession where
  client : CentralClient
  conflictRetries : Nat
  conflictBackoff : Duration
deriving DecidableEq, Repr

namespace CentralSession

def open_ (s : CentralSettings) : Except CentralError CentralSession := do
  return ⟨← CentralClient.create s.baseUrl s.token, s.conflictRetries, s.conflictBackoff⟩

/-! ## The ignore list -/

def ignoredPath (id : String) : String := "containers/" ++ id ++ "/ignored"

/-- Is a container on the ignore list? Success says yes, and 404 says no. -/
def isIgnored (c : CentralClient) (id : String) : Exchange Bool := do
  if ← step (.isKnown id) then return false
  let status ← c.statusOf .head (ignoredPath id)
  if isSuccessStatus status then
    step (.forget id)
    return true
  else if status = 404 then
    step (.remember id)
    return false
  else c.refuse .head (ignoredPath id) status ""

def removeIgnored (c : CentralClient) (id : String) : Exchange Unit := do
  step (.forget id)
  c.delete (ignoredPath id)

def listIgnored (c : CentralClient) : Exchange (List IgnoreEntry) :=
  c.get (.list IgnoreEntry.decoder) "containers/ignored"

/-! ## Records -/

def recordPath (id : String) : String := "containers/" ++ id

/-- Does a container have a record? Only success says so. -/
def hasRecord (c : CentralClient) (id : String) : Exchange Bool := do
  match ← (c.statusOf .get (recordPath id)).outcome with
  | .ok status => return isSuccessStatus status
  | .error _ => return false

def update (c : CentralClient) (record : ContainerRecord) : Exchange SyncOutcome := do
  c.put .put (recordPath record.id) record.toJson
  return .updated

/-- Look for a record some more times, and update it once it is found. -/
def settle (c : CentralClient) (record : ContainerRecord) (wait : Duration) :
    Nat → Exchange SyncOutcome
  | 0 => throw (.conflict record.id)
  | retries + 1 => do
    step (.sleep wait)
    if ← hasRecord c record.id then update c record
    else settle c record wait.double retries

def create (s : CentralSession) (record : ContainerRecord) : Exchange SyncOutcome := do
  let response ← s.client.submit .post "containers" record.toJson
  if response.isSuccess then return .created
  else if response.status = 409 then settle s.client record s.conflictBackoff s.conflictRetries
  else s.client.refuse .post "containers" response.status (CentralClient.errorText response)

/-- Create or update the record of a container that is not ignored. -/
def sync (s : CentralSession) (record : ContainerRecord) : Exchange SyncOutcome := do
  if ← isIgnored s.client record.id then return .ignored
  if ← hasRecord s.client record.id then update s.client record
  else s.create record

/-! ## Calls -/

/-- Register a host; that it is registered already is no error. -/
def registerHost (c : CentralClient) (host : HostRecord) : Exchange Unit := do
  let response ← c.submit .post "hosts" host.toJson
  if response.isSuccess ∨ response.status = 409 then return ()
  else c.refuse .post "hosts" response.status (CentralClient.errorText response)

/-- A call as an exchange. -/
def exchange (s : CentralSession) : (call : CentralCall) → Exchange call.Result
  | .checkAuth => do
    let _ ← s.client.get Json.Decoder.any "auth/verify"
  | .registerHost host => registerHost s.client host
  | .sync record => s.sync record
  | .delete id => s.client.delete (recordPath id)
  | .isIgnored id => isIgnored s.client id
  | .removeIgnored id => removeIgnored s.client id
  | .listIgnored => listIgnored s.client
  | .pushMetrics hostId metrics =>
    s.client.put .put ("hosts/" ++ hostId ++ "/metrics") metrics.toJson
  | .pendingTasks hostId =>
    s.client.getWith (.list Task.decoder) "tasks/pending" [("host_id", hostId)]
  | .report taskId result =>
    s.client.put .post ("tasks/" ++ taskId ++ "/result") result.toJson

end CentralSession

end HostAgent
