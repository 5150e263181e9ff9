import HostAgent.Proofs.Central.Sending

/-!
# What syncing a record sends

What shows of a call outside is its traffic: the requests it sends, each with the
reply it got, and its waits. Syncing a record has little choice in it. It asks
whether the container is ignored, and only a reply of 404 says that it is not.
Then it looks for the record once, and writes once: it updates a record that was
found and creates any other. Only if the creation is in conflict it looks again,
with waits that double, and updates the record the first time it is found.

The language of this traffic is written down first. Whatever is replied to a
sync, its history is in the language, and what the language says of outcomes and
numbers of requests needs no second look at the program.

## Main results

* `isIgnored_yields`, `hasRecord_yields`, `update_yields`, `settle_yields`: the traffic of the
  parts of a sync.
* `sync_yields`: the traffic of a sync, which leaves the first question out if the answer is known.
* `SyncTraffic.disciplined`: what every sync keeps to.
* `sync_disciplined`: so does every run, with a server that replies as it likes.
-/

namespace HostAgent

/-- What became of a request: a response or none. -/
abbrev HttpReply : Type := Option HttpResponse

namespace HttpReply

def succeeds (reply : HttpReply) : Bool := reply.any HttpResponse.isSuccess

/-- Is it a response with this status? -/
def tells (reply : HttpReply) (status : UInt16) : Bool := reply.any (·.status == status)

@[simp] theorem succeeds_some (response : HttpResponse) :
    succeeds (some response) = response.isSuccess := rfl

@[simp] theorem tells_some (response : HttpResponse) (status : UInt16) :
    tells (some response) status = (response.status == status) := rfl

theorem succeeds_of_tells {reply : HttpReply} {status : UInt16} (h : reply.tells status = true) :
    reply.succeeds = isSuccessStatus status := by
  cases reply with
  | none => cases h
  | some response =>
      obtain rfl : response.status = status := by simpa [tells] using h
      rfl

theorem tells_eq_false {reply : HttpReply} {status : UInt16} (h : reply.succeeds = true)
    (hstatus : isSuccessStatus status = false) : reply.tells status = false := by
  cases htells : reply.tells status with
  | false => rfl
  | true =>
      rw [succeeds_of_tells htells, hstatus] at h
      cases h

end HttpReply

/-- A duration times a number, up to the longest one. -/
def Duration.times (d : Duration) (n : Nat) : Duration := ⟨min (d.nanos * n) longest.nanos⟩

theorem Duration.times_one {d : Duration} (h : d.nanos ≤ longest.nanos) :
    d.times (twoPow 0) = d := by
  have hone : d.nanos * twoPow 0 = d.nanos := Nat.mul_one _
  rw [times, hone, Nat.min_eq_left h]

theorem Duration.times_double (d : Duration) (k : Nat) :
    (d.times (twoPow k)).double = d.times (twoPow (k + 1)) := by
  have htwice : d.nanos * twoPow (k + 1) = 2 * (d.nanos * twoPow k) := by
    rw [twoPow_succ, ← Nat.mul_assoc, Nat.mul_comm]
  simp only [times, double, htwice, Duration.mk.injEq]
  omega

/-! ## Traffic -/

/-- What shows of a call outside. -/
inductive Traffic
  | sent (request : HttpRequest) (reply : HttpReply)
  | waited (duration : Duration)
deriving DecidableEq, Repr

/-- A step of a call as it shows outside, if it does. -/
def Traffic.ofStep? : Asked CentralStep.Reply → Option Traffic
  | ⟨.send http, reply⟩ => some (.sent http reply)
  | ⟨.sleep duration, _⟩ => some (.waited duration)
  | _ => none

def traffic (past : List (Asked CentralStep.Reply)) : List Traffic :=
  past.filterMap Traffic.ofStep?

@[simp] theorem traffic_nil : traffic [] = [] := rfl

@[simp] theorem traffic_append (past past' : List (Asked CentralStep.Reply)) :
    traffic (past ++ past') = traffic past ++ traffic past' := List.filterMap_append

/-- What was replied to the requests with a method, in order. -/
def replies (method : HttpMethod) (t : List Traffic) : List HttpReply :=
  t.filterMap fun
    | .sent http reply => if http.method = method then some reply else none
    | .waited _ => none

@[simp] theorem replies_nil (method : HttpMethod) : replies method [] = [] := rfl

@[simp] theorem replies_append (method : HttpMethod) (t t' : List Traffic) :
    replies method (t ++ t') = replies method t ++ replies method t' := List.filterMap_append

@[simp] theorem replies_waited (method : HttpMethod) (d : Duration) (t : List Traffic) :
    replies method (.waited d :: t) = replies method t := rfl

theorem replies_sent (method : HttpMethod) (http : HttpRequest) (reply : HttpReply)
    (t : List Traffic) :
    replies method (.sent http reply :: t) =
      (if http.method = method then [reply] else []) ++ replies method t := by
  by_cases h : http.method = method <;> simp [replies, h]

/-! ## The language of a sync -/

/-- The error that the reply to a request tells of, if it is no success. The response to the
question whether a container is ignored has no text. -/
def ContainerRequest.failure (c : CentralClient) (r : ContainerRequest) : HttpReply → CentralError
  | none => .transport
  | some response =>
    match c.resolve r.path with
    | .ok url =>
      .status r.method.name url.render response.status
        (if r.method = .head then "" else CentralClient.errorText response)
    | .error e => e

theorem ContainerRequest.failure_ne_conflict (c : CentralClient) (r : ContainerRequest)
    (reply : HttpReply) (id : String) : r.failure c reply ≠ .conflict id := by
  cases reply with
  | none => simp [failure]
  | some response =>
      unfold failure CentralClient.resolve
      intro h
      cases hjoin : c.base.join (Text.dropLeading '/' r.path) with
      | ok url =>
          rw [hjoin] at h
          cases h
      | error e =>
          rw [hjoin] at h
          cases h

/-- What the reply to a request decides: success, or the error it tells of. -/
def verdict {α : Type} (c : CentralClient) (r : ContainerRequest) (a : α) (reply : HttpReply) :
    Except CentralError α :=
  if reply.succeeds then .ok a else .error (r.failure c reply)

theorem verdict_eq_ok_iff {α : Type} {c : CentralClient} {r : ContainerRequest} {a b : α}
    {reply : HttpReply} : verdict c r a reply = .ok b ↔ reply.succeeds = true ∧ a = b := by
  cases h : reply.succeeds <;> simp [verdict, h]

theorem verdict_eq_error_iff {α : Type} {c : CentralClient} {r : ContainerRequest} {a : α}
    {reply : HttpReply} {e : CentralError} :
    verdict c r a reply = .error e ↔ reply.succeeds = false ∧ r.failure c reply = e := by
  cases h : reply.succeeds <;> simp [verdict, h]

theorem verdict_ne_conflict {α : Type} (c : CentralClient) (r : ContainerRequest) (a : α)
    (reply : HttpReply) (id : String) : verdict c r a reply ≠ .error (.conflict id) := by
  intro h
  exact r.failure_ne_conflict c reply id (verdict_eq_error_iff.1 h).2

/-- A record is looked for again, first after the wait `2 ^ k` times the backoff, and then after
waits that double. -/
def probes (get : HttpRequest) (backoff : Duration) : Nat → List HttpReply → List Traffic
  | _, [] => []
  | k, reply :: rest =>
    .waited (backoff.times (twoPow k)) :: .sent get reply :: probes get backoff (k + 1) rest

section Language

variable (session : CentralSession) (record : ContainerRecord)
  (form : ContainerRequest → HttpRequest)

/-- The traffic of a sync once the container is known not to be ignored, and what comes of it. -/
inductive WriteTraffic : List Traffic → Except CentralError SyncOutcome → Prop
  | updated {found written : HttpReply} :
      found.succeeds = true →
      WriteTraffic
        [.sent (form (.hasRecord record.id)) found, .sent (form (.update record)) written]
        (verdict session.client (.update record) .updated written)
  | created {found written : HttpReply} :
      found.succeeds = false → written.tells 409 = false →
      WriteTraffic
        [.sent (form (.hasRecord record.id)) found, .sent (form (.create record)) written]
        (verdict session.client (.create record) .created written)
  /-- The record is found in the end, and updated. -/
  | recovered {found refused found' written : HttpReply} {missed : List HttpReply} :
      found.succeeds = false → refused.tells 409 = true →
      (∀ reply ∈ missed, reply.succeeds = false) → missed.length < session.conflictRetries →
      found'.succeeds = true →
      WriteTraffic
        (.sent (form (.hasRecord record.id)) found :: .sent (form (.create record)) refused ::
          (probes (form (.hasRecord record.id)) session.conflictBackoff 0 (missed ++ [found']) ++
            [.sent (form (.update record)) written]))
        (verdict session.client (.update record) .updated written)
  /-- The record is looked for as often as is allowed, and never found. -/
  | abandoned {found refused : HttpReply} {missed : List HttpReply} :
      found.succeeds = false → refused.tells 409 = true →
      (∀ reply ∈ missed, reply.succeeds = false) → missed.length = session.conflictRetries →
      WriteTraffic
        (.sent (form (.hasRecord record.id)) found :: .sent (form (.create record)) refused ::
          probes (form (.hasRecord record.id)) session.conflictBackoff 0 missed)
        (.error (.conflict record.id))

/-- The traffic of a sync, and what comes of it. -/
inductive SyncTraffic : List Traffic → Except CentralError SyncOutcome → Prop
  /-- It is not said that the container is not ignored. -/
  | stopped {reply : HttpReply} :
      reply.tells 404 = false →
      SyncTraffic [.sent (form (.isIgnored record.id)) reply]
        (verdict session.client (.isIgnored record.id) .ignored reply)
  | written {reply : HttpReply} {t : List Traffic} {outcome : Except CentralError SyncOutcome} :
      reply.tells 404 = true → WriteTraffic session record form t outcome →
      SyncTraffic (.sent (form (.isIgnored record.id)) reply :: t) outcome

end Language

/-! ## Histories of exchanges -/

namespace Exchange

variable {α β : Type} {past : List (Asked CentralStep.Reply)}

/-- A sequence ends with the error of its first part, or goes on to the second. -/
theorem yields_bind {e : Exchange α} {f : α → Exchange β} {outcome : Except CentralError β}
    (h : (e >>= f).run.Yields past outcome) :
    (∃ err, e.run.Yields past (.error err) ∧ outcome = .error err) ∨
      ∃ first second a, past = first ++ second ∧ e.run.Yields first (.ok a) ∧
        (f a).run.Yields second outcome := by
  rw [Program.except_bind] at h
  obtain ⟨first, second, result, rfl, hfirst, hsecond⟩ := (Program.yields_bind _ _ _ _).1 h
  cases result with
  | error err =>
      obtain ⟨rfl, rfl⟩ := (Program.yields_done _ _ _).1 hsecond
      rw [List.append_nil]
      exact .inl ⟨err, hfirst, rfl⟩
  | ok a => exact .inr ⟨first, second, a, rfl, hfirst, hsecond⟩

theorem yields_pure {a : α} {outcome : Except CentralError α}
    (h : (pure a : Exchange α).run.Yields past outcome) : past = [] ∧ outcome = .ok a := by
  obtain ⟨rfl, rfl⟩ := (Program.yields_done _ _ _).1 h
  exact ⟨rfl, rfl⟩

theorem yields_throw {err : CentralError} {outcome : Except CentralError α}
    (h : (throw err : Exchange α).run.Yields past outcome) : past = [] ∧ outcome = .error err := by
  obtain ⟨rfl, rfl⟩ := (Program.yields_done _ _ _).1 h
  exact ⟨rfl, rfl⟩

theorem yields_step {s : CentralStep} {outcome : Except CentralError s.Reply}
    (h : (step s).run.Yields past outcome) :
    ∃ reply, past = [⟨s, reply⟩] ∧ outcome = .ok reply := by
  obtain ⟨reply, rest, rfl, hrest⟩ := (Program.yields_ask _ _ _ _).1 h
  obtain ⟨rfl, rfl⟩ := (Program.yields_done _ _ _).1 hrest
  exact ⟨reply, rfl, rfl⟩

/-- A sequence that begins with a single step. -/
theorem yields_step_bind {s : CentralStep} {f : s.Reply → Exchange β}
    {outcome : Except CentralError β} (h : (step s >>= f).run.Yields past outcome) :
    ∃ reply rest, past = ⟨s, reply⟩ :: rest ∧ (f reply).run.Yields rest outcome := by
  rcases yields_bind h with ⟨err, hstep, -⟩ | ⟨first, second, reply, rfl, hstep, hrest⟩
  · obtain ⟨_, -, heq⟩ := yields_step hstep
    cases heq
  · obtain ⟨_, rfl, heq⟩ := yields_step hstep
    cases heq
    exact ⟨reply, second, rfl, hrest⟩

theorem yields_outcome {e : Exchange α} {outcome : Except CentralError (Except CentralError α)}
    (h : e.outcome.run.Yields past outcome) : ∃ result, e.run.Yields past result ∧
      outcome = .ok result := by
  have hlift : e.outcome.run = e.run.bind fun r => .done (.ok r) := rfl
  rw [hlift] at h
  obtain ⟨first, second, result, rfl, hfirst, hsecond⟩ := (Program.yields_bind _ _ _ _).1 h
  obtain ⟨rfl, rfl⟩ := (Program.yields_done _ _ _).1 hsecond
  rw [List.append_nil]
  exact ⟨result, hfirst, rfl⟩

/-- A form of exchange sends its request, and its outcome depends on the reply. -/
theorem yields_onReply {e : Exchange α} {http : HttpRequest}
    {f : HttpResponse → Except CentralError α} {outcome : Except CentralError α}
    (he : e.run = .ask (.send http) (CentralClient.onReply f)) (h : e.run.Yields past outcome) :
    ∃ reply : HttpReply, past = [⟨.send http, reply⟩] ∧
      outcome = reply.elim (.error .transport) f := by
  rw [he] at h
  obtain ⟨reply, rest, rfl, hrest⟩ := (Program.yields_ask _ _ _ _).1 h
  cases reply with
  | none =>
      obtain ⟨rfl, rfl⟩ := (Program.yields_done _ _ _).1 hrest
      exact ⟨none, rfl, rfl⟩
  | some response =>
      obtain ⟨rfl, rfl⟩ := (Program.yields_done _ _ _).1 hrest
      exact ⟨some response, rfl, rfl⟩

end Exchange

/-! ## The parts of a sync -/

namespace CentralSession

open Exchange (yields_bind yields_pure yields_throw yields_step_bind yields_outcome yields_onReply)

variable {c : CentralClient} {past : List (Asked CentralStep.Reply)}

/-- To refuse the response to a request is to fail with the error it tells of. -/
theorem refuse_yields {α : Type} {r : ContainerRequest} {url : Url}
    (hurl : c.resolve r.path = .ok url) {response : HttpResponse} {body : String}
    (hbody : body = if r.method = .head then "" else CentralClient.errorText response)
    {outcome : Except CentralError α}
    (h : (c.refuse r.method r.path response.status body : Exchange α).run.Yields past outcome) :
    past = [] ∧ outcome = .error (r.failure c (some response)) := by
  rw [CentralClient.refuse, hurl, Exchange.ok_bind, hbody] at h
  obtain ⟨rfl, rfl⟩ := yields_throw h
  refine ⟨rfl, ?_⟩
  simp only [ContainerRequest.failure, hurl]

/-- Asking whether a container is ignored sends one request, unless the answer is known. -/
theorem isIgnored_yields {id : String} {http : HttpRequest}
    (hhttp : (ContainerRequest.isIgnored id).http? c = some http)
    {outcome : Except CentralError Bool} (h : (isIgnored c id).run.Yields past outcome) :
    (⟨.isKnown id, true⟩ ∈ past ∧ traffic past = [] ∧ outcome = .ok false) ∨
      ∃ reply : HttpReply, traffic past = [.sent http reply] ∧
        outcome = if reply.tells 404 then .ok false else verdict c (.isIgnored id) true reply := by
  obtain ⟨url, hurl, hcreate⟩ := (ContainerRequest.http?_eq_some_iff _ _ _).1 hhttp
  obtain ⟨known, rest, rfl, hrest⟩ := yields_step_bind h
  cases known with
  | true =>
      obtain ⟨rfl, rfl⟩ := yields_pure hrest
      exact .inl ⟨List.mem_cons_self, rfl, rfl⟩
  | false =>
      right
      have hstatus := CentralClient.statusOf_run hurl hcreate
      rcases yields_bind hrest with ⟨err, hsent, rfl⟩ | ⟨first, second, status, rfl, hsent, hnext⟩
      · obtain ⟨reply, rfl, heq⟩ := yields_onReply hstatus hsent
        cases reply with
        | none =>
            cases heq
            exact ⟨none, rfl, rfl⟩
        | some response => cases heq
      · obtain ⟨reply, rfl, heq⟩ := yields_onReply hstatus hsent
        cases reply with
        | none => cases heq
        | some response =>
            cases heq
            refine ⟨some response, ?_⟩
            have hsucceeds : HttpReply.succeeds (some response) = isSuccessStatus response.status :=
              rfl
            have htells : HttpReply.tells (some response) 404 = (response.status == 404) := rfl
            split at hnext
            · rename_i hsuccess
              obtain ⟨_, _, rfl, hdone⟩ := yields_step_bind hnext
              obtain ⟨rfl, rfl⟩ := yields_pure hdone
              refine ⟨rfl, ?_⟩
              rw [HttpReply.tells_eq_false (hsucceeds.trans hsuccess) rfl, if_neg (by simp),
                verdict, if_pos (hsucceeds.trans hsuccess)]
            · rename_i hsuccess
              split at hnext
              · rename_i h404
                obtain ⟨_, _, rfl, hdone⟩ := yields_step_bind hnext
                obtain ⟨rfl, rfl⟩ := yields_pure hdone
                exact ⟨rfl, by rw [htells, if_pos (beq_iff_eq.2 h404)]⟩
              · rename_i h404
                obtain ⟨rfl, rfl⟩ := refuse_yields (r := .isIgnored id) hurl rfl hnext
                refine ⟨rfl, ?_⟩
                rw [htells, if_neg (by simpa using h404), verdict, hsucceeds, if_neg hsuccess]

/-- Looking for a record sends one request, and does not fail. -/
theorem hasRecord_yields {id : String} {http : HttpRequest}
    (hhttp : (ContainerRequest.hasRecord id).http? c = some http)
    {outcome : Except CentralError Bool} (h : (hasRecord c id).run.Yields past outcome) :
    ∃ reply : HttpReply, traffic past = [.sent http reply] ∧ outcome = .ok reply.succeeds := by
  obtain ⟨url, hurl, hcreate⟩ := (ContainerRequest.http?_eq_some_iff _ _ _).1 hhttp
  rcases yields_bind h with ⟨err, houtcome, -⟩ | ⟨first, second, result, rfl, houtcome, hnext⟩
  · obtain ⟨_, -, heq⟩ := yields_outcome houtcome
    cases heq
  · obtain ⟨_, hsent, heq⟩ := yields_outcome houtcome
    cases heq
    obtain ⟨reply, rfl, rfl⟩ := yields_onReply (CentralClient.statusOf_run hurl hcreate) hsent
    refine ⟨reply, ?_⟩
    cases reply with
    | none =>
        obtain ⟨rfl, rfl⟩ := yields_pure hnext
        exact ⟨rfl, rfl⟩
    | some response =>
        obtain ⟨rfl, rfl⟩ := yields_pure hnext
        exact ⟨rfl, rfl⟩

theorem update_yields {record : ContainerRecord} {http : HttpRequest}
    (hhttp : (ContainerRequest.update record).http? c = some http)
    {outcome : Except CentralError SyncOutcome} (h : (update c record).run.Yields past outcome) :
    ∃ reply : HttpReply, traffic past = [.sent http reply] ∧
      outcome = verdict c (.update record) .updated reply := by
  obtain ⟨url, hurl, hcreate⟩ := (ContainerRequest.http?_eq_some_iff _ _ _).1 hhttp
  have hrun : (update c record).run = .ask (.send http) (CentralClient.onReply fun response =>
      ((CentralClient.successful .put url response).bind fun _ => .ok ()).bind fun _ =>
        .ok .updated) :=
    CentralClient.onReply_bind (CentralClient.put_run hurl hcreate) fun _ => rfl
  obtain ⟨reply, rfl, rfl⟩ := yields_onReply hrun h
  refine ⟨reply, rfl, ?_⟩
  cases reply with
  | none => rfl
  | some response =>
      have hsucceeds : HttpReply.succeeds (some response) = response.isSuccess := rfl
      rw [verdict, hsucceeds, Option.elim_some, CentralClient.successful]
      cases response.isSuccess with
      | true => rfl
      | false =>
          simp only [ContainerRequest.failure, hurl]
          rfl

/-- Looking for a record until it is found, and then updating it. -/
theorem settle_yields {record : ContainerRecord} {get put : HttpRequest}
    (hget : (ContainerRequest.hasRecord record.id).http? c = some get)
    (hput : (ContainerRequest.update record).http? c = some put) (backoff : Duration)
    (retries k : Nat) {outcome : Except CentralError SyncOutcome}
    (h : (settle c record (backoff.times (twoPow k)) retries).run.Yields past outcome) :
    (∃ missed found written, (∀ reply ∈ missed, HttpReply.succeeds reply = false) ∧
        missed.length < retries ∧ HttpReply.succeeds found = true ∧
        traffic past = probes get backoff k (missed ++ [found]) ++ [.sent put written] ∧
        outcome = verdict c (.update record) .updated written) ∨
      ∃ missed, (∀ reply ∈ missed, HttpReply.succeeds reply = false) ∧
        missed.length = retries ∧ traffic past = probes get backoff k missed ∧
        outcome = .error (.conflict record.id) := by
  induction retries generalizing k past with
  | zero =>
      obtain ⟨rfl, rfl⟩ := yields_throw h
      exact .inr ⟨[], by simp, rfl, rfl, rfl⟩
  | succ retries ih =>
      obtain ⟨⟨⟩, rest, rfl, hprobe⟩ := yields_step_bind h
      rcases yields_bind hprobe with ⟨err, hfound, -⟩ | ⟨first, second, result, rfl, hfound, hnext⟩
      · obtain ⟨_, -, heq⟩ := hasRecord_yields hget hfound
        cases heq
      · obtain ⟨reply, hfirst, heq⟩ := hasRecord_yields hget hfound
        cases heq
        have htraffic : traffic (⟨.sleep (backoff.times (twoPow k)), ()⟩ :: (first ++ second)) =
            .waited (backoff.times (twoPow k)) :: .sent get reply :: traffic second := by
          show Traffic.waited _ :: traffic (first ++ second) = _
          rw [traffic_append, hfirst]
          rfl
        rw [htraffic]
        cases hreply : reply.succeeds with
        | true =>
            rw [hreply, if_pos rfl] at hnext
            obtain ⟨written, hsecond, rfl⟩ := update_yields hput hnext
            exact .inl ⟨[], reply, written, by simp, Nat.succ_pos _, hreply, by rw [hsecond]; rfl,
              rfl⟩
        | false =>
            rw [hreply, if_neg (by simp), Duration.times_double] at hnext
            have hmiss : ∀ missed : List HttpReply, (∀ r ∈ missed, r.succeeds = false) →
                ∀ r ∈ reply :: missed, r.succeeds = false := by
              intro missed hall r hr
              rcases List.mem_cons.1 hr with rfl | hr
              · exact hreply
              · exact hall r hr
            rcases ih (k + 1) hnext with
              ⟨missed, found, written, hall, hlength, hsucceeds, hsecond, rfl⟩ |
              ⟨missed, hall, hlength, hsecond, rfl⟩
            · exact .inl ⟨reply :: missed, found, written, hmiss missed hall,
                Nat.succ_lt_succ hlength, hsucceeds, by rw [hsecond]; rfl, rfl⟩
            · exact .inr ⟨reply :: missed, hmiss missed hall, congrArg Nat.succ hlength,
                by rw [hsecond]; rfl, rfl⟩

variable {session : CentralSession} {record : ContainerRecord}
  {form : ContainerRequest → HttpRequest}

/-- Creating a record sends one request, and if that is in conflict the record is looked for. -/
theorem create_yields {post : HttpRequest}
    (hpost : (ContainerRequest.create record).http? session.client = some post)
    {outcome : Except CentralError SyncOutcome}
    (h : (session.create record).run.Yields past outcome) :
    ∃ written first second, past = first ++ second ∧ traffic first = [.sent post written] ∧
      ((written.tells 409 = false ∧ second = [] ∧
          outcome = verdict session.client (.create record) .created written) ∨
        (written.tells 409 = true ∧
          (settle session.client record session.conflictBackoff session.conflictRetries).run.Yields
            second outcome)) := by
  obtain ⟨url, hurl, hcreate⟩ := (ContainerRequest.http?_eq_some_iff _ _ _).1 hpost
  have hsubmit := CentralClient.submit_run hurl hcreate
  rcases yields_bind h with ⟨err, hsent, rfl⟩ | ⟨first, second, response, rfl, hsent, hnext⟩
  · obtain ⟨reply, rfl, heq⟩ := yields_onReply hsubmit hsent
    cases reply with
    | none =>
        cases heq
        exact ⟨none, _, [], (List.append_nil _).symm, rfl, .inl ⟨rfl, rfl, rfl⟩⟩
    | some response => cases heq
  · obtain ⟨reply, rfl, heq⟩ := yields_onReply hsubmit hsent
    cases reply with
    | none => cases heq
    | some response =>
        cases heq
        refine ⟨some response, _, second, rfl, rfl, ?_⟩
        have hsucceeds : HttpReply.succeeds (some response) = response.isSuccess := rfl
        have htells : HttpReply.tells (some response) 409 = (response.status == 409) := rfl
        rw [verdict, hsucceeds, htells]
        split at hnext
        · rename_i hsuccess
          obtain ⟨rfl, rfl⟩ := yields_pure hnext
          have h409 : HttpReply.tells (some response) 409 = false :=
            HttpReply.tells_eq_false hsuccess rfl
          exact .inl ⟨h409, rfl, by rw [if_pos hsuccess]⟩
        · rename_i hsuccess
          split at hnext
          · rename_i h409
            exact .inr ⟨beq_iff_eq.2 h409, hnext⟩
          · rename_i h409
            obtain ⟨rfl, rfl⟩ := refuse_yields (r := .create record) hurl rfl hnext
            exact .inl ⟨by simpa using h409, rfl, by rw [if_neg hsuccess]⟩

/-- Whatever is replied to a sync, its traffic is in the language. The first question is left out if
the answer is known. -/
theorem sync_yields
    (hform : ∀ r ∈ ContainerRequest.ofSync record, r.http? session.client = some (form r))
    (hbackoff : session.conflictBackoff.nanos ≤ Duration.longest.nanos)
    {outcome : Except CentralError SyncOutcome}
    (h : (session.sync record).run.Yields past outcome) :
    (⟨.isKnown record.id, true⟩ ∈ past ∧ WriteTraffic session record form (traffic past) outcome) ∨
      SyncTraffic session record form (traffic past) outcome := by
  have hhead := hform (.isIgnored record.id) (by simp)
  have hget := hform (.hasRecord record.id) (by simp)
  have hput := hform (.update record) (by simp)
  have hpost := hform (.create record) (by simp)
  -- The part after the first question is the same whether that was sent or not.
  have hwrite : ∀ {past : List (Asked CentralStep.Reply)},
      (do if ← hasRecord session.client record.id then update session.client record
          else session.create record : Exchange SyncOutcome).run.Yields past outcome →
      WriteTraffic session record form (traffic past) outcome := by
    intro past h
    rcases yields_bind h with ⟨err, hfound, -⟩ | ⟨first, second, result, rfl, hfound, hnext⟩
    · obtain ⟨_, -, heq⟩ := hasRecord_yields hget hfound
      cases heq
    · obtain ⟨found, hfirst, heq⟩ := hasRecord_yields hget hfound
      cases heq
      rw [traffic_append, hfirst]
      cases hreply : found.succeeds with
      | true =>
          rw [hreply, if_pos rfl] at hnext
          obtain ⟨written, hsecond, rfl⟩ := update_yields hput hnext
          rw [hsecond]
          exact .updated hreply
      | false =>
          rw [hreply, if_neg (by simp)] at hnext
          obtain ⟨written, third, fourth, rfl, hthird, ⟨h409, rfl, rfl⟩ | ⟨h409, hsettle⟩⟩ :=
            create_yields hpost hnext
          · rw [List.append_nil, hthird]
            exact .created hreply h409
          · rw [← Duration.times_one hbackoff] at hsettle
            rw [traffic_append, hthird]
            rcases settle_yields hget hput _ _ 0 hsettle with
              ⟨missed, found', last, hall, hlength, hsucceeds, hfourth, rfl⟩ |
              ⟨missed, hall, hlength, hfourth, rfl⟩
            · rw [hfourth]
              exact .recovered hreply h409 hall hlength hsucceeds
            · rw [hfourth]
              exact .abandoned hreply h409 hall hlength
  rcases yields_bind h with ⟨err, hignored, rfl⟩ | ⟨first, second, ignored, rfl, hignored, hnext⟩
  · rcases isIgnored_yields hhead hignored with ⟨-, -, heq⟩ | ⟨reply, hfirst, heq⟩
    · cases heq
    · right
      rw [hfirst]
      split at heq
      · cases heq
      · rename_i h404
        obtain ⟨hfails, rfl⟩ := verdict_eq_error_iff.1 heq.symm
        rw [← verdict_eq_error_iff.2 ⟨hfails, rfl⟩]
        exact .stopped (by simpa using h404)
  · rcases isIgnored_yields hhead hignored with ⟨hknown, hfirst, heq⟩ | ⟨reply, hfirst, heq⟩
    · cases heq
      rw [traffic_append, hfirst]
      exact .inl ⟨List.mem_append_left _ hknown, hwrite hnext⟩
    · right
      rw [traffic_append, hfirst]
      split at heq
      · rename_i h404
        cases heq
        exact .written h404 (hwrite hnext)
      · rename_i h404
        obtain ⟨hsucceeds, rfl⟩ := verdict_eq_ok_iff.1 heq.symm
        obtain ⟨rfl, rfl⟩ := yields_pure hnext
        rw [← verdict_eq_ok_iff.2 ⟨hsucceeds, rfl⟩]
        exact .stopped (by simpa using h404)

end CentralSession

/-! ## What every sync keeps to -/

section Discipline

variable (session : CentralSession) (record : ContainerRecord)
  (form : ContainerRequest → HttpRequest)

/-- What the traffic of a sync and its outcome keep to. -/
structure Disciplined (t : List Traffic) (outcome : Except CentralError SyncOutcome) : Prop where
  one_question : (replies .head t).length = 1
  one_update : (replies .put t).length ≤ 1
  one_creation : (replies .post t).length ≤ 1
  few_probes : (replies .get t).length ≤ session.conflictRetries + 1
  no_deletion : replies .delete t = []
  /-- Nothing is written unless the container is said not to be ignored. -/
  written_unignored : replies .put t ≠ [] ∨ replies .post t ≠ [] →
    ∃ reply ∈ replies .head t, reply.tells 404 = true
  ignored_iff : outcome = .ok .ignored ↔ ∃ reply ∈ replies .head t, reply.succeeds = true
  created_iff : outcome = .ok .created ↔ ∃ reply ∈ replies .post t, reply.succeeds = true
  updated_iff : outcome = .ok .updated ↔ ∃ reply ∈ replies .put t, reply.succeeds = true
  conflict_iff : outcome = .error (.conflict record.id) ↔
    (∃ reply ∈ replies .post t, reply.tells 409 = true) ∧
      ∀ reply ∈ replies .get t, reply.succeeds = false
  /-- Any other error is the one that the last request tells of. -/
  failure : ∀ e, outcome = .error e → e ≠ .conflict record.id →
    ∃ r ∈ [ContainerRequest.isIgnored record.id, .create record, .update record], ∃ reply,
      t.getLast? = some (.sent (form r) reply) ∧ reply.succeeds = false ∧
        e = r.failure session.client reply

end Discipline

theorem replies_probes (method : HttpMethod) (get : HttpRequest) (backoff : Duration) (k : Nat)
    (rs : List HttpReply) :
    replies method (probes get backoff k rs) = if get.method = method then rs else [] := by
  induction rs generalizing k with
  | nil => simp [probes]
  | cons reply rs ih =>
      rw [probes, replies_waited, replies_sent, ih]
      by_cases h : get.method = method <;> simp [h]

variable {session : CentralSession} {record : ContainerRecord}
  {form : ContainerRequest → HttpRequest}

/-- A sync whose last request decides fails with the error that this request tells of. -/
private theorem failure_of_last {t : List Traffic} {r : ContainerRequest} {a : SyncOutcome}
    {reply : HttpReply}
    (hr : r ∈ [ContainerRequest.isIgnored record.id, .create record, .update record])
    (hlast : t.getLast? = some (.sent (form r) reply)) (e : CentralError)
    (he : verdict session.client r a reply = .error e) (_ : e ≠ .conflict record.id) :
    ∃ r ∈ [ContainerRequest.isIgnored record.id, .create record, .update record], ∃ reply,
      t.getLast? = some (.sent (form r) reply) ∧ reply.succeeds = false ∧
        e = r.failure session.client reply := by
  obtain ⟨hfails, rfl⟩ := verdict_eq_error_iff.1 he
  exact ⟨r, hr, reply, hlast, hfails, rfl⟩

theorem SyncTraffic.disciplined
    (hform : ∀ r ∈ ContainerRequest.ofSync record, r.http? session.client = some (form r))
    {t : List Traffic} {outcome : Except CentralError SyncOutcome}
    (h : SyncTraffic session record form t outcome) :
    Disciplined session record form t outcome := by
  have hhead : (form (.isIgnored record.id)).method = .head :=
    ContainerRequest.http?_method (hform _ (by simp))
  have hget : (form (.hasRecord record.id)).method = .get :=
    ContainerRequest.http?_method (hform _ (by simp))
  have hput : (form (.update record)).method = .put :=
    ContainerRequest.http?_method (hform _ (by simp))
  have hpost : (form (.create record)).method = .post :=
    ContainerRequest.http?_method (hform _ (by simp))
  cases h with
  | @stopped reply h404 =>
      constructor
      case conflict_iff => simp [replies_sent, hhead, verdict_ne_conflict]
      case failure => exact failure_of_last (by simp) rfl
      all_goals simp [replies_sent, hhead, verdict_eq_ok_iff]
  | @written reply t _ h404 hwrite =>
      have hfails : reply.succeeds = false := HttpReply.succeeds_of_tells h404
      cases hwrite with
      | @updated found written hfound =>
          constructor
          case conflict_iff => simp [replies_sent, hhead, hget, hput, verdict_ne_conflict]
          case failure => exact failure_of_last (by simp) rfl
          all_goals simp [replies_sent, hhead, hget, hput, verdict_eq_ok_iff, h404, hfails]
      | @created found written hfound h409 =>
          constructor
          case conflict_iff =>
            simp [replies_sent, hhead, hget, hpost, verdict_ne_conflict, h409]
          case failure => exact failure_of_last (by simp) rfl
          all_goals simp [replies_sent, hhead, hget, hpost, verdict_eq_ok_iff, h404, hfails]
      | @recovered found refused found' written missed hfound h409 hall hlength hfound' =>
          have hrefused : refused.succeeds = false := HttpReply.succeeds_of_tells h409
          constructor
          case conflict_iff =>
            simp [replies_sent, replies_probes, hhead, hget, hput, hpost, verdict_ne_conflict,
              hfound']
          case failure =>
            exact failure_of_last (by simp) (List.getLast?_concat (l := _ :: _ :: _ :: probes ..))
          case few_probes =>
            simpa [replies_sent, replies_probes, hhead, hget, hput, hpost, Nat.succ_le_iff]
              using hlength
          all_goals simp [replies_sent, replies_probes, hhead, hget, hput, hpost,
            verdict_eq_ok_iff, h404, hfails, hrefused]
      | @abandoned found refused missed hfound h409 hall hlength =>
          have hrefused : refused.succeeds = false := HttpReply.succeeds_of_tells h409
          constructor
          case conflict_iff =>
            simpa [replies_sent, replies_probes, hhead, hget, hpost, hfound, h409] using hall
          case failure =>
            intro e he hne
            exact absurd (Except.error.inj he).symm hne
          case few_probes =>
            simp [replies_sent, replies_probes, hhead, hget, hpost, hlength]
          all_goals simp [replies_sent, replies_probes, hhead, hget, hpost, h404, hfails, hrefused]

/-! ## Runs -/

/-- A server behind an ignore list of which something may be known, and the time. -/
structure Wire (σ : Type) where
  server : σ
  cache : IgnoreCache
  now : Duration

namespace Wire

variable {σ α : Type} (respond : σ → HttpRequest → HttpReply × σ)

/-- The server replies to a request as it likes, or not at all. -/
def answer (w : Wire σ) : (step : CentralStep) → step.Reply × Wire σ
  | .send http => ((respond w.server http).1, { w with server := (respond w.server http).2 })
  | .sleep d => ((), { w with now := w.now + d })
  | .isKnown id => (w.cache.isKnown w.now id, w)
  | .remember id => ((), { w with cache := w.cache.remember w.now id })
  | .forget id => ((), { w with cache := w.cache.forget id })

theorem answer_lifetime (w : Wire σ) (step : CentralStep) :
    (w.answer respond step).2.cache.lifetime = w.cache.lifetime := by
  cases step with
  | remember id =>
      show (w.cache.remember w.now id).lifetime = _
      unfold IgnoreCache.remember
      split <;> rfl
  | _ => rfl

/-- With a lifetime of zero nothing is ever known. -/
theorem not_known (w : Wire σ) (hcache : w.cache.lifetime = .zero)
    (p : Program CentralStep.Reply α) (id : String) :
    ⟨.isKnown id, true⟩ ∉ p.history (Wire.answer respond) w := by
  induction p generalizing w with
  | done a => simp [Program.history]
  | ask step k ih =>
      rw [Program.history, List.mem_cons, not_or]
      refine ⟨?_, ih _ _ ((w.answer_lifetime respond step).trans hcache)⟩
      intro heq
      cases step with
      | isKnown id' =>
          obtain ⟨hstep, hreply⟩ := Asked.mk.inj heq
          cases hstep
          have hknown : w.cache.isKnown w.now id = true := (eq_of_heq hreply).symm
          rw [w.cache.isKnown_of_zero hcache] at hknown
          cases hknown
      | _ => cases heq

end Wire

/-- Syncing a record with nothing remembered about the ignore list, whatever the server replies and
wherever it does not: the traffic is in the language of a sync, and so it keeps to what every sync
keeps to. -/
theorem sync_disciplined {σ : Type} (session : CentralSession) (record : ContainerRecord)
    (form : ContainerRequest → HttpRequest)
    (hform : ∀ r ∈ ContainerRequest.ofSync record, r.http? session.client = some (form r))
    (hbackoff : session.conflictBackoff.nanos ≤ Duration.longest.nanos)
    (respond : σ → HttpRequest → HttpReply × σ) (w : Wire σ) (hcache : w.cache.lifetime = .zero) :
    SyncTraffic session record form
        (traffic ((session.exchange (.sync record)).run.history (Wire.answer respond) w))
        ((session.exchange (.sync record)).run.run (Wire.answer respond) w).1 ∧
      Disciplined session record form
        (traffic ((session.exchange (.sync record)).run.history (Wire.answer respond) w))
        ((session.exchange (.sync record)).run.run (Wire.answer respond) w).1 := by
  have hyields := Program.yields_run (Wire.answer respond) (session.exchange (.sync record)).run w
  rcases CentralSession.sync_yields hform hbackoff hyields with ⟨hknown, -⟩ | htraffic
  · exact absurd hknown (w.not_known respond hcache _ _)
  · exact ⟨htraffic, htraffic.disciplined hform⟩

/-! ## A creation in conflict

The record is not found because the server is in trouble, and so it is created, which is in
conflict. One more look at it gets no response. -/

/-- A record of a container that runs. -/
def runningRecord : ContainerRecord :=
  { id := "x", name := "web", image := "nginx:1.25", status := .running, hostId := "h1"
    ports := [], env := ∅, createdAt := none }

/-- A server that replies from a list, and then not at all. -/
def inTurn (replies : List HttpReply) (_ : HttpRequest) : HttpReply × List HttpReply :=
  (replies.head?.join, replies.tail)

def troubled : Wire (List HttpReply) where
  server := [some ⟨404, ""⟩, some ⟨500, ""⟩, some ⟨409, ""⟩, none, some ⟨200, ""⟩, some ⟨200, ""⟩]
  cache := .empty .zero
  now := .zero

/-- The traffic of the sync with the troubled server. -/
def troubledTraffic : List Traffic :=
  traffic ((plainSession.exchange (.sync runningRecord)).run.history (Wire.answer inTurn) troubled)

/-- The record is looked for three times and written twice, the second time as an update. -/
theorem sync_disciplined_troubled :
    replies .get troubledTraffic = [some ⟨500, ""⟩, none, some ⟨200, ""⟩] ∧
    replies .put troubledTraffic = [some ⟨200, ""⟩] ∧
    (replies .post troubledTraffic).length ≤ 1 ∧
    ((plainSession.exchange (.sync runningRecord)).run.run (Wire.answer inTurn) troubled).1 =
      .ok .updated := by
  have hform : ∀ r ∈ ContainerRequest.ofSync runningRecord,
      r.http? plainSession.client = some (r.form plainSession.client) := by decide +kernel
  have hbackoff : plainSession.conflictBackoff.nanos ≤ Duration.longest.nanos := by decide +kernel
  obtain ⟨-, hdisciplined⟩ :=
    sync_disciplined plainSession runningRecord _ hform hbackoff inTurn troubled rfl
  have hput : replies .put troubledTraffic = [some ⟨200, ""⟩] := by decide +kernel
  have hupdated : some ⟨200, ""⟩ ∈ replies .put troubledTraffic := by
    rw [hput]
    exact List.mem_cons_self
  exact ⟨by decide +kernel, hput, hdisciplined.one_creation,
    hdisciplined.updated_iff.2 ⟨_, hupdated, rfl⟩⟩

end HostAgent
