import HostAgent.Central.Session
import HostAgent.Central.State

/-!
# What the central server promises

The requests about containers, each with the address and the body that a client
sends it with, and what a server promises for each of them: how it changes the
records and the ignore list, and what its response says. A server may keep its
promises for some requests only; all else about it is left open, such as the
status and the text of its responses, and what more it keeps.

An update of a record that does not exist may be refused, and so may a record
that exists when it is created again. Nothing else is refused.

## Main results

* `Serves.contains_iff`: which requests change whether there is a record.
* `serves_obey`: there is a behaviour that keeps every promise.
* `CentralServer.ofTable`: a server for requests that are all sent differently.
-/

namespace HostAgent

/-- A request about containers. -/
inductive ContainerRequest
  | isIgnored (id : String)
  | unignore (id : String)
  | listIgnored
  | hasRecord (id : String)
  | update (record : ContainerRecord)
  | create (record : ContainerRecord)
  | delete (id : String)
deriving DecidableEq, Repr

namespace ContainerRequest

def method : ContainerRequest → HttpMethod
  | isIgnored _ => .head
  | unignore _ => .delete
  | listIgnored => .get
  | hasRecord _ => .get
  | update _ => .put
  | create _ => .post
  | delete _ => .delete

def path : ContainerRequest → String
  | isIgnored id => CentralSession.ignoredPath id
  | unignore id => CentralSession.ignoredPath id
  | listIgnored => "containers/ignored"
  | hasRecord id => CentralSession.recordPath id
  | update record => CentralSession.recordPath record.id
  | create _ => "containers"
  | delete id => CentralSession.recordPath id

def body : ContainerRequest → Option Json
  | update record => some record.toJson
  | create record => some record.toJson
  | _ => none

/-- The request as a client sends it, if it can be sent at all. -/
def http? (c : CentralClient) (r : ContainerRequest) : Option HttpRequest :=
  match c.resolve r.path with
  | .ok url => HttpRequest.create? r.method url c.token r.body
  | .error _ => none

theorem http?_eq_some_iff (c : CentralClient) (r : ContainerRequest) (http : HttpRequest) :
    r.http? c = some http ↔ ∃ url, c.resolve r.path = .ok url ∧
      HttpRequest.create? r.method url c.token r.body = some http := by
  unfold http?
  cases c.resolve r.path with
  | error e => simp
  | ok url => simp

theorem http?_method {c : CentralClient} {r : ContainerRequest} {http : HttpRequest}
    (h : r.http? c = some http) : http.method = r.method := by
  obtain ⟨url, _, hcreate⟩ := (http?_eq_some_iff c r http).1 h
  unfold HttpRequest.create? at hcreate
  split at hcreate
  · cases hcreate
    rfl
  · cases hcreate

/-- The form in which a client sends a request that can be sent at all. -/
def form (c : CentralClient) (r : ContainerRequest) : HttpRequest :=
  (r.http? c).getD ⟨r.method, c.base, [], r.body⟩

theorem http?_form {c : CentralClient} {r : ContainerRequest} {http : HttpRequest}
    (h : r.http? c = some http) : r.http? c = some (r.form c) := by
  rw [form, h, Option.getD_some]

/-- The requests that a record may take to be synced. -/
def ofSync (record : ContainerRecord) : List ContainerRequest :=
  [isIgnored record.id, hasRecord record.id, update record, create record]

@[simp] theorem mem_ofSync {record : ContainerRecord} {r : ContainerRequest} :
    r ∈ ofSync record ↔ r = isIgnored record.id ∨ r = hasRecord record.id ∨ r = update record ∨
      r = create record := by
  simp [ofSync]

end ContainerRequest

namespace CentralState

theorem eq_of {s s' : CentralState} (hrecords : ∀ id, s'.records.get? id = s.records.get? id)
    (hignored : s'.ignored = s.ignored) (htasks : s'.tasks = s.tasks) : s' = s := by
  obtain ⟨records, ignored, tasks⟩ := s'
  obtain rfl : records = s.records := KeyMap.ext_get? hrecords
  obtain rfl : ignored = s.ignored := hignored
  obtain rfl : tasks = s.tasks := htasks
  rfl

/-- The state with one more record, or another in its place. -/
def store (s : CentralState) (record : ContainerRecord) : CentralState :=
  { s with records := s.records.insert record.id record }

def drop (s : CentralState) (id : String) : CentralState :=
  { s with records := s.records.erase id }

def unignore (s : CentralState) (id : String) : CentralState :=
  { s with ignored := s.ignored.filter (· ≠ id) }

end CentralState

/-- A response that is right for a request, and the state after it. -/
def Serves (s : CentralState) (response : HttpResponse) (s' : CentralState) :
    ContainerRequest → Prop
  | .isIgnored id =>
    s' = s ∧ if id ∈ s.ignored then response.isSuccess = true else response.status = 404
  | .unignore id =>
    s' = s.unignore id ∧ (response.status = 404 ∨ response.isSuccess = true)
  | .listIgnored =>
    s' = s ∧ response.isSuccess = true ∧
      ∃ entries, Json.decodeText (.list IgnoreEntry.decoder) response.body = .ok entries ∧
        (entries.map IgnoreEntry.containerId).Perm s.ignored
  | .hasRecord id => s' = s ∧ response.isSuccess = s.records.contains id
  | .update record =>
    (response.isSuccess = true ∧ s' = s.store record) ∨
      (s.records.contains record.id = false ∧ response.isSuccess = false ∧ s' = s)
  | .create record =>
    (response.isSuccess = true ∧ s' = s.store record) ∨
      (s.records.contains record.id = true ∧ response.status = 409 ∧ s' = s)
  | .delete id =>
    s' = s.drop id ∧ (response.status = 404 ∨ response.isSuccess = true)

/-- Only storing a record of a container makes it exist, unless its record is deleted. -/
theorem Serves.contains_iff {s s' : CentralState} {response : HttpResponse} {r : ContainerRequest}
    (h : Serves s response s' r) {id : String} (hdelete : r ≠ .delete id) :
    s'.records.contains id = true ↔
      (response.isSuccess = true ∧ ∃ record, record.id = id ∧
        (r = .update record ∨ r = .create record)) ∨ s.records.contains id = true := by
  have hstore : ∀ record, (s.store record).records.contains id = true ↔
      record.id = id ∨ s.records.contains id = true := by
    intro record
    rw [CentralState.store, KeyMap.contains_insert, Bool.or_eq_true, decide_eq_true_iff, eq_comm]
  cases r with
  | isIgnored id' => simp [h.1]
  | unignore id' => simp [h.1, CentralState.unignore]
  | listIgnored => simp [h.1]
  | hasRecord id' => simp [h.1]
  | update record =>
      rcases h with ⟨hsuccess, rfl⟩ | ⟨_, hrefused, rfl⟩
      · simp [hstore, hsuccess]
      · simp [hrefused]
  | create record =>
      rcases h with ⟨hsuccess, rfl⟩ | ⟨_, h409, rfl⟩
      · simp [hstore, hsuccess]
      · have hrefused : response.isSuccess = false := by
          rw [HttpResponse.isSuccess, h409]
          rfl
        simp [hrefused]
  | delete id' =>
      have hne : id ≠ id' := fun heq => hdelete (heq ▸ rfl)
      rw [h.1, CentralState.drop, KeyMap.contains_erase]
      simp [hne]

/-- A server that always responds, and keeps its promises for some requests of a client. What it
keeps besides records and ignore list is its own affair. -/
structure CentralServer (client : CentralClient) (handles : ContainerRequest → Prop) where
  State : Type
  view : State → CentralState
  respond : State → HttpRequest → HttpResponse × State
  serves : ∀ r, handles r → ∃ http, r.http? client = some http ∧
    ∀ s, Serves (view s) (respond s http).1 (view (respond s http).2) r

/-! ## A server that keeps its promises -/

/-- The text of a list of ignore entries is left to the server. -/
def obey (listing : List String → String) (s : CentralState) :
    ContainerRequest → HttpResponse × CentralState
  | .isIgnored id => (⟨if id ∈ s.ignored then 200 else 404, ""⟩, s)
  | .unignore id => (⟨204, ""⟩, s.unignore id)
  | .listIgnored => (⟨200, listing s.ignored⟩, s)
  | .hasRecord id => (⟨if s.records.contains id then 200 else 404, ""⟩, s)
  | .update record =>
    if s.records.contains record.id then (⟨200, ""⟩, s.store record) else (⟨404, ""⟩, s)
  | .create record =>
    if s.records.contains record.id then (⟨409, ""⟩, s) else (⟨201, ""⟩, s.store record)
  | .delete id => (⟨if s.records.contains id then 204 else 404, ""⟩, s.drop id)

theorem serves_obey (listing : List String → String) (s : CentralState) (r : ContainerRequest)
    (hlisting : r = .listIgnored → ∃ entries,
      Json.decodeText (.list IgnoreEntry.decoder) (listing s.ignored) = .ok entries ∧
        (entries.map IgnoreEntry.containerId).Perm s.ignored) :
    Serves s (obey listing s r).1 (obey listing s r).2 r := by
  cases r with
  | isIgnored id =>
      refine ⟨rfl, ?_⟩
      by_cases h : id ∈ s.ignored
      · simp only [obey, if_pos h]
        rfl
      · simp only [obey, if_neg h]
  | unignore id => exact ⟨rfl, .inr rfl⟩
  | listIgnored => exact ⟨rfl, rfl, hlisting rfl⟩
  | hasRecord id =>
      refine ⟨rfl, ?_⟩
      cases h : s.records.contains id <;> simp [obey, h] <;> rfl
  | update record =>
      cases h : s.records.contains record.id
      · exact .inr ⟨h, by simp [obey, h]; rfl, by simp [obey, h]⟩
      · exact .inl ⟨by simp [obey, h]; rfl, by simp [obey, h]⟩
  | create record =>
      cases h : s.records.contains record.id
      · exact .inl ⟨by simp [obey, h]; rfl, by simp [obey, h]⟩
      · exact .inr ⟨h, by simp [obey, h], by simp [obey, h]⟩
  | delete id =>
      refine ⟨rfl, ?_⟩
      cases h : s.records.contains id
      · exact .inl (by simp [obey, h])
      · exact .inr (by simp [obey, h]; rfl)

theorem obey_ignored (listing : List String → String) (s : CentralState) (r : ContainerRequest) :
    (obey listing s r).2.ignored = s.ignored ∨
      ∃ id, (obey listing s r).2.ignored = s.ignored.filter (· ≠ id) := by
  cases r with
  | unignore id => exact .inr ⟨id, rfl⟩
  | update record => exact .inl (by simp only [obey]; split <;> rfl)
  | create record => exact .inl (by simp only [obey]; split <;> rfl)
  | _ => exact .inl rfl

/-- In a table whose requests are all sent differently, a request is found by its form. -/
private theorem find?_form {client : CentralClient} {table : List ContainerRequest}
    (hdistinct : table.Pairwise fun r r' => r.http? client ≠ r'.http? client)
    {r : ContainerRequest} (hr : r ∈ table) {http : HttpRequest}
    (hhttp : r.http? client = some http) :
    table.find? (fun r' => r'.http? client = some http) = some r := by
  induction table with
  | nil => cases hr
  | cons r' rest ih =>
      obtain ⟨hhead, hrest⟩ := List.pairwise_cons.1 hdistinct
      rcases List.mem_cons.1 hr with rfl | hmem
      · simp [hhttp]
      · have hne : ¬ r'.http? client = some http := by
          intro heq
          exact hhead r hmem (heq.trans hhttp.symm)
        simpa [hne] using ih hrest hmem

/-- A server for the requests of a table, which it knows by the form in which they are sent. Its
ignore list is always one of `lists`. -/
def CentralServer.ofTable (client : CentralClient) (table : List ContainerRequest)
    (lists : List (List String)) (listing : List String → String)
    (hsent : ∀ r ∈ table, (r.http? client).isSome)
    (hdistinct : table.Pairwise fun r r' => r.http? client ≠ r'.http? client)
    (hclosed : ∀ ids ∈ lists, ∀ id, ids.filter (· ≠ id) ∈ lists)
    (hlisting : ∀ ids ∈ lists, ∃ entries,
      Json.decodeText (.list IgnoreEntry.decoder) (listing ids) = .ok entries ∧
        (entries.map IgnoreEntry.containerId).Perm ids) :
    CentralServer client (· ∈ table) where
  State := { s : CentralState // s.ignored ∈ lists }
  view := Subtype.val
  respond s http :=
    match table.find? fun r => r.http? client = some http with
    | some r =>
      ((obey listing s.1 r).1, ⟨(obey listing s.1 r).2, by
        rcases obey_ignored listing s.1 r with h | ⟨id, h⟩
        · rw [h]
          exact s.2
        · rw [h]
          exact hclosed _ s.2 id⟩)
    | none => (⟨404, ""⟩, s)
  serves := by
    intro r hr
    obtain ⟨http, hhttp⟩ := Option.isSome_iff_exists.1 (hsent r hr)
    refine ⟨http, hhttp, ?_⟩
    intro s
    simp only [find?_form hdistinct hr hhttp]
    exact serves_obey listing s.1 r fun _ => hlisting _ s.2

theorem CentralServer.ofTable_respond {client : CentralClient} {table : List ContainerRequest}
    {lists : List (List String)} {listing : List String → String}
    {hsent : ∀ r ∈ table, (r.http? client).isSome}
    {hdistinct : table.Pairwise fun r r' => r.http? client ≠ r'.http? client}
    {hclosed : ∀ ids ∈ lists, ∀ id, ids.filter (· ≠ id) ∈ lists}
    {hlisting : ∀ ids ∈ lists, ∃ entries,
      Json.decodeText (.list IgnoreEntry.decoder) (listing ids) = .ok entries ∧
        (entries.map IgnoreEntry.containerId).Perm ids}
    {r : ContainerRequest} (hr : r ∈ table) (s : { s : CentralState // s.ignored ∈ lists }) :
    let reply := (ofTable client table lists listing hsent hdistinct hclosed hlisting).respond s
      (r.form client)
    reply.1 = (obey listing s.1 r).1 ∧ reply.2.1 = (obey listing s.1 r).2 := by
  obtain ⟨http, hhttp⟩ := Option.isSome_iff_exists.1 (hsent r hr)
  simp [ofTable, find?_form hdistinct hr (ContainerRequest.http?_form hhttp)]

/-! ## A server at a plain address -/

/-- An address of the server at `http://central`. -/
def centralUrl (segments : List String) : Url :=
  ⟨"http", some (Url.hostAlone "central"), .segments segments, none, none⟩

/-- A session with that server, without a token. -/
def plainSession : CentralSession := ⟨⟨centralUrl [""], none⟩, 3, .ofMillis 200⟩

example : CentralClient.create " http://central" (some "") = .ok plainSession.client := rfl

end HostAgent
