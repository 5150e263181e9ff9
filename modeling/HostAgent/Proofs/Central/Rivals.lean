import HostAgent.Proofs.Central.Traffic
import HostAgent.Proofs.Work.Interleaving

/-!
# Syncs that race for a record

Several calls sync the same container at the same time, each with a record of
its own, with a server that refuses to create a record twice. Between the
question whether there is a record and the write that follows from it, another
call may have created it. Then the creation is in conflict, and the record is
found the first time it is looked for again.

A record that exists stays. So each call sees a server whose answers change at
most once, and this together with the language of a sync settles how the call
ends, whatever the others do. How the calls end together is settled by the one
step that makes the record exist.

## Main results

* `WriteTraffic.settled`: how a sync ends that sees a record come to exist at most once.
* `contest_step`: what each step of a contest does to the record.
* `contest_last`: the record in the end is that of the last write.
* `contest_creates`: one creation makes the record exist, and there is no other.
* `contest_settles`: every contest can be brought to an end, and how it ends.
-/

namespace HostAgent

/-! ## What one call sees -/

/-- A reply to the request of a sync, when the record exists or does not, and the container is not
ignored. -/
def HttpReply.Fits (present : Bool) (method : HttpMethod) (reply : HttpReply) : Prop :=
  match method with
  | .head => reply.tells 404 = true
  | .get => reply.succeeds = present
  | .put => present = true → reply.succeeds = true
  | .post => if present then reply.tells 409 = true else reply.succeeds = true
  | .delete => False

/-- The traffic fits a record that may come to exist at any time, and then stays. -/
def Seen : Bool → List Traffic → Prop
  | _, [] => True
  | present, .waited _ :: t => Seen present t
  | present, .sent http reply :: t =>
    ∃ present', (present = true → present' = true) ∧ reply.Fits present' http.method ∧
      Seen present' t

theorem Seen.weaken {present present' : Bool} {t : List Traffic} (h : Seen present' t)
    (hle : present = true → present' = true) : Seen present t := by
  induction t generalizing present' with
  | nil => trivial
  | cons step t ih =>
      cases step with
      | waited d => exact ih h hle
      | sent http reply =>
          obtain ⟨later, hlater, hfits, hrest⟩ := h
          exact ⟨later, fun hpresent => hlater (hle hpresent), hfits, hrest⟩

/-- Once the record exists, looking for it finds it; and what was found exists from then on. -/
theorem seen_probes {get : HttpRequest} (hget : get.method = .get) {backoff : Duration} {k : Nat}
    {rs : List HttpReply} {t : List Traffic} {present : Bool}
    (h : Seen present (probes get backoff k rs ++ t)) :
    (present = true → ∀ r ∈ rs, HttpReply.succeeds r = true) ∧
      ∃ present', (present = true → present' = true) ∧
        (∀ r ∈ rs, HttpReply.succeeds r = true → present' = true) ∧ Seen present' t := by
  induction rs generalizing k present with
  | nil => exact ⟨by simp, present, id, by simp, h⟩
  | cons reply rs ih =>
      obtain ⟨now, hnow, hfits, hrest⟩ := h
      rw [hget] at hfits
      have hreply : reply.succeeds = now := hfits
      obtain ⟨hfound, later, hlater, hsince, ht⟩ := ih hrest
      refine ⟨?_, later, fun hpresent => hlater (hnow hpresent), ?_, ht⟩
      · intro hpresent r hr
        rcases List.mem_cons.1 hr with rfl | hr
        · exact hreply.trans (hnow hpresent)
        · exact hfound (hnow hpresent) r hr
      · intro r hr hsucceeds
        rcases List.mem_cons.1 hr with rfl | hr
        · exact hlater (hreply.symm.trans hsucceeds)
        · exact hsince r hr hsucceeds

section Language

variable {session : CentralSession} {record : ContainerRecord}
  {form : ContainerRequest → HttpRequest} {t : List Traffic}
  {outcome : Except CentralError SyncOutcome}

/-- How many writes of the traffic were successful. -/
def taken (t : List Traffic) : Nat :=
  (replies .put t ++ replies .post t).countP HttpReply.succeeds

/-- A sync ends with the one write that it is successful with. -/
theorem WriteTraffic.settled
    (hform : ∀ r ∈ ContainerRequest.ofSync record, r.http? session.client = some (form r))
    (hretries : 1 ≤ session.conflictRetries) {present : Bool} (hseen : Seen present t)
    (h : WriteTraffic session record form t outcome) :
    taken t = 1 ∧
      ((outcome = .ok .created ∧ ∃ reply ∈ replies .post t, reply.succeeds = true) ∨
        (outcome = .ok .updated ∧ ∀ reply ∈ replies .post t, reply.succeeds = false)) := by
  have hget : (form (.hasRecord record.id)).method = .get :=
    ContainerRequest.http?_method (hform _ (by simp))
  have hput : (form (.update record)).method = .put :=
    ContainerRequest.http?_method (hform _ (by simp))
  have hpost : (form (.create record)).method = .post :=
    ContainerRequest.http?_method (hform _ (by simp))
  have hupdated : ∀ {written : HttpReply}, written.succeeds = true →
      verdict session.client (.update record) SyncOutcome.updated written = .ok .updated := by
    intro written hsucceeds
    exact verdict_eq_ok_iff.2 ⟨hsucceeds, rfl⟩
  cases h with
  | @updated found written hfound =>
      obtain ⟨now, -, hfits, later, hlater, hwrite, -⟩ := hseen
      rw [hget] at hfits
      rw [hput] at hwrite
      have hsucceeds : written.succeeds = true := hwrite (hlater (hfits.symm.trans hfound))
      refine ⟨?_, .inr ⟨hupdated hsucceeds, ?_⟩⟩
      · simp [taken, replies_sent, hget, hput, hsucceeds]
      · simp [replies_sent, hget, hput]
  | @created found written hfound h409 =>
      obtain ⟨now, -, -, later, -, hwrite, -⟩ := hseen
      rw [hpost] at hwrite
      -- It would have been in conflict if the record had existed.
      have hsucceeds : written.succeeds = true := by
        cases later with
        | true => rw [show written.tells 409 = true from hwrite] at h409; cases h409
        | false => exact hwrite
      refine ⟨?_, .inl ⟨verdict_eq_ok_iff.2 ⟨hsucceeds, rfl⟩, ?_⟩⟩
      · simp [taken, replies_sent, hget, hpost, hsucceeds]
      · simp [replies_sent, hget, hpost, hsucceeds]
  | @recovered found refused found' written missed hfound h409 hall hlength hfound' =>
      have hrefused : refused.succeeds = false := HttpReply.succeeds_of_tells h409
      obtain ⟨now, -, -, later, -, -, hprobes⟩ := hseen
      obtain ⟨-, last, -, hsince, after, hafter, hwrite, -⟩ := seen_probes hget hprobes
      rw [hput] at hwrite
      have hsucceeds : written.succeeds = true :=
        hwrite (hafter (hsince found' (by simp) hfound'))
      refine ⟨?_, .inr ⟨hupdated hsucceeds, ?_⟩⟩
      · simp [taken, replies_sent, replies_probes, hget, hput, hpost, hsucceeds, hrefused]
      · simp [replies_sent, replies_probes, hget, hput, hpost, hrefused]
  | @abandoned found refused missed hfound h409 hall hlength =>
      exfalso
      obtain ⟨now, -, -, later, -, hconflict, hprobes⟩ := hseen
      rw [hpost] at hconflict
      -- The conflict tells that the record exists, so the first look at it finds it.
      have hpresent : later = true := by
        cases later with
        | true => rfl
        | false =>
            have hsucceeds : refused.succeeds = true := hconflict
            rw [HttpReply.succeeds_of_tells h409] at hsucceeds
            cases hsucceeds
      rw [← List.append_nil (probes ..)] at hprobes
      have hfound := (seen_probes hget hprobes).1 hpresent
      cases missed with
      | nil => exact absurd (hlength ▸ hretries) (by simp)
      | cons reply missed =>
          have hhit := hfound reply List.mem_cons_self
          rw [hall reply List.mem_cons_self] at hhit
          cases hhit

/-- Where the only update is the last request, what comes before it is all the rest. -/
private theorem before_update {first before after : List Traffic} {last : Traffic}
    {http : HttpRequest} {reply : HttpReply} (hmethod : http.method = .put)
    (hfirst : replies .put first = [])
    (hsplit : first ++ [last] = before ++ .sent http reply :: after) : before = first := by
  rcases List.append_eq_append_iff.1 hsplit with ⟨rest, rfl, hrest⟩ | ⟨rest, rfl, hrest⟩
  · cases rest with
    | nil => rw [List.append_nil]
    | cons _ rest => simp at hrest
  · cases rest with
    | nil => rw [List.append_nil]
    | cons step rest =>
        obtain ⟨rfl, -⟩ := List.cons.inj hrest
        simp [replies_sent, hmethod] at hfirst

/-- A record is updated only after it was found. -/
theorem WriteTraffic.found_before
    (hform : ∀ r ∈ ContainerRequest.ofSync record, r.http? session.client = some (form r))
    {before after : List Traffic} {http : HttpRequest} {reply : HttpReply}
    (hmethod : http.method = .put) (hsplit : t = before ++ .sent http reply :: after)
    (h : WriteTraffic session record form t outcome) :
    ∃ found ∈ replies .get before, found.succeeds = true := by
  have hget : (form (.hasRecord record.id)).method = .get :=
    ContainerRequest.http?_method (hform _ (by simp))
  have hpost : (form (.create record)).method = .post :=
    ContainerRequest.http?_method (hform _ (by simp))
  have hsome : reply ∈ replies .put t := by simp [hsplit, replies_sent, hmethod]
  cases h with
  | @updated found written hfound =>
      have hbefore : before = [.sent (form (.hasRecord record.id)) found] :=
        before_update hmethod (by simp [replies_sent, hget]) hsplit
      exact ⟨found, by simp [hbefore, replies_sent, hget], hfound⟩
  | created _ _ => simp [replies_sent, hget, hpost] at hsome
  | @recovered found refused found' written missed hfound h409 hall hlength hfound' =>
      rw [← List.cons_append, ← List.cons_append] at hsplit
      have hbefore := before_update hmethod
        (by simp [replies_sent, replies_probes, hget, hpost]) hsplit
      exact ⟨found', by simp [hbefore, replies_sent, replies_probes, hget], hfound'⟩
  | abandoned _ _ _ _ => simp [replies_sent, replies_probes, hget, hpost] at hsome

end Language

/-! ## Contests -/

/-- A call that syncs a record: the record, and how the call deals with a conflict. -/
structure Rival where
  record : ContainerRecord
  retries : Nat
  backoff : Duration

namespace Rival

def session (client : CentralClient) (r : Rival) : CentralSession :=
  ⟨client, r.retries, r.backoff⟩

/-- The steps of the call. -/
def program (client : CentralClient) (r : Rival) :
    Program CentralStep.Reply (Except CentralError SyncOutcome) :=
  ((r.session client).exchange (.sync r.record)).run

/-- Whatever is replied to the call, it sends nothing but the requests of a sync. -/
theorem program_sends (client : CentralClient) (r : Rival) :
    (r.program client).Asking (CentralClient.Sends client (· ∈ ContainerRequest.ofSync r.record)) :=
  CentralSession.sync_sends (r.session client) r.record fun _ hr => hr

end Rival

variable {ι : Type} {client : CentralClient} {handles : ContainerRequest → Prop}

/-- Every request is responded to. The server may also change by itself, but then it keeps the
record of one container, and whether the container is ignored. Nothing is known about the replies to
other steps. -/
def contest (srv : CentralServer client handles) (id : String) :
    Scene srv.State ι CentralStep.Reply Unit
  | s, .asked _ ⟨.send http, reply⟩, s' =>
    reply = some (srv.respond s http).1 ∧ s' = (srv.respond s http).2
  | s, .asked _ _, s' => s' = s
  | s, .moved _, s' =>
    (srv.view s').records.get? id = (srv.view s).records.get? id ∧
      (id ∈ (srv.view s').ignored ↔ id ∈ (srv.view s).ignored)

/-- Calls that sync records of one container with one server. -/
structure Contenders (srv : CentralServer client handles) (id : String) (calls : ι → Rival) :
    Prop where
  same : ∀ who, (calls who).record.id = id
  handled : ∀ who, ∀ r ∈ ContainerRequest.ofSync (calls who).record, handles r
  retries : ∀ who, 1 ≤ (calls who).retries
  backoff : ∀ who, (calls who).backoff.nanos ≤ Duration.longest.nanos
  /-- A record that exists is not created again. -/
  strict : ∀ who s, (srv.view s).records.contains id = true →
    (srv.respond s ((ContainerRequest.create (calls who).record).form client)).1.status = 409

/-- Whose record the server took. -/
def Happening.writer? : Happening ι CentralStep.Reply Unit → Option ι
  | .asked who ⟨.send http, reply⟩ =>
    if (http.method = .put ∨ http.method = .post) ∧ HttpReply.succeeds reply = true then some who
    else none
  | _ => none

/-- The calls whose records the server took, in order. -/
def writers (hs : List (Happening ι CentralStep.Reply Unit)) : List ι :=
  hs.filterMap Happening.writer?

/-- The server took a record of the call as a new one. -/
def Creates (who : ι) : Happening ι CentralStep.Reply Unit → Prop
  | .asked who' ⟨.send http, reply⟩ =>
    who' = who ∧ http.method = .post ∧ HttpReply.succeeds reply = true
  | _ => False

theorem Creates.unique {who who' : ι} {x : Happening ι CentralStep.Reply Unit}
    (h : Creates who x) (h' : Creates who' x) : who = who' := by
  cases x with
  | moved m => exact h.elim
  | asked other e =>
      obtain ⟨step, reply⟩ := e
      cases step with
      | send http => exact h.1.symm.trans h'.1
      | _ => exact h.elim

/-- A request, if it is one, is of those that its call may send. -/
def Happening.OfSync (client : CentralClient) (calls : ι → Rival) :
    Happening ι CentralStep.Reply Unit → Prop
  | .asked who ⟨.send http, _⟩ =>
    ∃ r ∈ ContainerRequest.ofSync (calls who).record, r.http? client = some http
  | _ => True

/-- A reply, if it is one to a request, fits. -/
def Happening.Fits (present : Bool) : Happening ι CentralStep.Reply Unit → Prop
  | .asked _ ⟨.send http, reply⟩ => HttpReply.Fits present http.method reply
  | _ => True

/-! ## Single steps -/

/-- What a strict server replies to the requests of a sync. -/
theorem Serves.fits {s s' : CentralState} {response : HttpResponse} {r : ContainerRequest}
    {record : ContainerRecord} (h : Serves s response s' r)
    (hr : r ∈ ContainerRequest.ofSync record) (hignored : record.id ∉ s.ignored)
    (hstrict : r = .create record → s.records.contains record.id = true → response.status = 409) :
    HttpReply.Fits (s.records.contains record.id) r.method (some response) := by
  rw [ContainerRequest.mem_ofSync] at hr
  rcases hr with rfl | rfl | rfl | rfl
  · have h404 : response.status = 404 := by simpa [hignored] using h.2
    show (response.status == 404) = true
    rw [h404]
    rfl
  · exact h.2
  · intro hpresent
    rcases h with ⟨hsuccess, -⟩ | ⟨habsent, -, -⟩
    · exact hsuccess
    · rw [hpresent] at habsent
      cases habsent
  · show if s.records.contains record.id = true then (response.status == 409) = true
      else response.isSuccess = true
    split
    · rename_i hpresent
      rw [hstrict rfl hpresent]
      rfl
    · rename_i habsent
      rcases h with ⟨hsuccess, -⟩ | ⟨hpresent, -, -⟩
      · exact hsuccess
      · exact absurd hpresent habsent

/-- A request of a sync stores its record, if it is a write and successful. -/
theorem Serves.stores {s s' : CentralState} {response : HttpResponse} {r : ContainerRequest}
    {record : ContainerRecord} (h : Serves s response s' r)
    (hr : r ∈ ContainerRequest.ofSync record) :
    s'.ignored = s.ignored ∧ s'.records.get? record.id =
      if (r.method = .put ∨ r.method = .post) ∧ response.isSuccess = true then some record
      else s.records.get? record.id := by
  rw [ContainerRequest.mem_ofSync] at hr
  rcases hr with rfl | rfl | rfl | rfl
  · rw [h.1]
    exact ⟨rfl, rfl⟩
  · rw [h.1]
    exact ⟨rfl, rfl⟩
  · rcases h with ⟨hsuccess, rfl⟩ | ⟨-, hrefused, rfl⟩
    · simp [CentralState.store, ContainerRequest.method, hsuccess]
    · simp [hrefused]
  · rcases h with ⟨hsuccess, rfl⟩ | ⟨-, h409, rfl⟩
    · simp [CentralState.store, ContainerRequest.method, hsuccess]
    · have hrefused : response.isSuccess = false := by
        rw [HttpResponse.isSuccess, h409]
        rfl
      simp [hrefused]

variable {srv : CentralServer client handles} {id : String} {calls : ι → Rival}

/-- What each step of a contest does: it keeps the container unignored, it stores the record of the
call whose write the server takes, and its reply fits. -/
theorem contest_step (hcalls : Contenders srv id calls)
    {x : Happening ι CentralStep.Reply Unit} (hx : x.OfSync client calls) {t t' : srv.State}
    (hstep : contest srv id t x t') (hignored : id ∉ (srv.view t).ignored) :
    id ∉ (srv.view t').ignored ∧
      (srv.view t').records.get? id = x.writer?.elim ((srv.view t).records.get? id)
        (fun who => some (calls who).record) ∧
      x.Fits ((srv.view t).records.contains id) := by
  cases x with
  | moved m => exact ⟨fun h => hignored (hstep.2.1 h), hstep.1, trivial⟩
  | asked who e =>
      obtain ⟨step, reply⟩ := e
      cases step with
      | send http =>
          obtain ⟨r, hr, hhttp⟩ := hx
          obtain ⟨rfl, rfl⟩ := hstep
          obtain ⟨http', hhttp', hserves⟩ := srv.serves r (hcalls.handled who r hr)
          obtain rfl : http' = http := Option.some.inj (hhttp'.symm.trans hhttp)
          have hmethod := ContainerRequest.http?_method hhttp
          obtain rfl := hcalls.same who
          obtain ⟨hsame, hget⟩ := (hserves t).stores hr
          refine ⟨by rwa [hsame], ?_, ?_⟩
          · rw [hget, Happening.writer?, hmethod, HttpReply.succeeds_some]
            split <;> rfl
          · show HttpReply.Fits _ http'.method _
            rw [hmethod]
            refine (hserves t).fits hr hignored ?_
            rintro rfl hpresent
            have hform := ContainerRequest.http?_form hhttp
            rw [hhttp] at hform
            rw [Option.some.inj hform]
            exact hcalls.strict who t hpresent
      | _ =>
          obtain rfl : t' = t := hstep
          exact ⟨hignored, rfl, trivial⟩

/-- A record that exists stays. -/
theorem contest_present (hcalls : Contenders srv id calls)
    {x : Happening ι CentralStep.Reply Unit} (hx : x.OfSync client calls) {t t' : srv.State}
    (hstep : contest srv id t x t') (hignored : id ∉ (srv.view t).ignored)
    (hpresent : (srv.view t).records.contains id = true) :
    (srv.view t').records.contains id = true := by
  obtain ⟨-, hget, -⟩ := contest_step hcalls hx hstep hignored
  rw [KeyMap.contains, hget]
  cases x.writer? with
  | none => exact hpresent
  | some who => rfl

/-! ## Whole contests -/

section Trails

variable {s s' : srv.State} {hs : List (Happening ι CentralStep.Reply Unit)}
  (hcalls : Contenders srv id calls) (hfrom : ∀ x ∈ hs, x.OfSync client calls)
  (hignored : id ∉ (srv.view s).ignored) (htrail : Trail (contest srv id) s hs s')

include hcalls hfrom hignored htrail

theorem contest_unignored : id ∉ (srv.view s').ignored :=
  htrail.invariant (P := fun s => id ∉ (srv.view s).ignored)
    (fun _ _ _ hx hout hstep => (contest_step hcalls (hfrom _ hx) hstep hout).1) hignored

theorem contest_stays (hpresent : (srv.view s).records.contains id = true) :
    (srv.view s').records.contains id = true :=
  (htrail.invariant
    (P := fun s => id ∉ (srv.view s).ignored ∧ (srv.view s).records.contains id = true)
    (fun _ _ _ hx hs hstep => ⟨(contest_step hcalls (hfrom _ hx) hstep hs.1).1,
      contest_present hcalls (hfrom _ hx) hstep hs.1 hs.2⟩) ⟨hignored, hpresent⟩).2

/-- The record in the end is that of the last write, or the old one if there was none. -/
theorem contest_last :
    (srv.view s').records.get? id = (writers hs).getLast?.elim ((srv.view s).records.get? id)
      fun who => some (calls who).record := by
  induction htrail with
  | nil => rfl
  | @cons s s₁ s' x hs hstep _ ih =>
      obtain ⟨hunignored, hget, -⟩ :=
        contest_step hcalls (hfrom x List.mem_cons_self) hstep hignored
      rw [ih (fun y hy => hfrom y (List.mem_cons_of_mem _ hy)) hunignored, hget, writers, writers]
      cases hwriter : x.writer? with
      | none => rw [List.filterMap_cons_none hwriter, Option.elim_none]
      | some who =>
          rw [List.filterMap_cons_some hwriter, List.getLast?_cons, Option.elim_some]
          cases (hs.filterMap Happening.writer?).getLast? <;> rfl

/-- Each call sees the record come to exist at most once. -/
theorem contest_seen [DecidableEq ι] (who : ι) :
    Seen ((srv.view s).records.contains id) (traffic (ownHistory who hs)) := by
  induction htrail with
  | nil => trivial
  | @cons s s₁ s' x hs hstep _ ih =>
      have hx := hfrom x List.mem_cons_self
      obtain ⟨hunignored, -, hfits⟩ := contest_step hcalls hx hstep hignored
      have hrest := (ih (fun y hy => hfrom y (List.mem_cons_of_mem _ hy)) hunignored).weaken
        (contest_present hcalls hx hstep hignored)
      cases x with
      | moved m => exact hrest
      | asked who' e =>
          rw [ownHistory_asked]
          split
          · obtain ⟨step, reply⟩ := e
            cases step with
            | send http => exact ⟨_, fun hpresent => hpresent, hfits, hrest⟩
            | _ => exact hrest
          · exact hrest

/-- Where something happens the container is not ignored; a record that existed at the start exists
there, and one that exists there exists in the end. -/
theorem contest_at {x : Happening ι CentralStep.Reply Unit} (hmem : x ∈ hs) :
    ∃ mid mid', contest srv id mid x mid' ∧ id ∉ (srv.view mid).ignored ∧
      ((srv.view s).records.contains id = true → (srv.view mid).records.contains id = true) ∧
      ((srv.view mid).records.contains id = true → (srv.view s').records.contains id = true) ∧
      ((srv.view mid').records.contains id = true → (srv.view s').records.contains id = true) := by
  obtain ⟨before, after, mid, mid', rfl, hbefore, hstep, hafter⟩ := htrail.of_mem hmem
  have hfirst : ∀ y ∈ before, y.OfSync client calls := fun y hy => hfrom y (by simp [hy])
  have hlast : ∀ y ∈ after, y.OfSync client calls := fun y hy => hfrom y (by simp [hy])
  have hmid : id ∉ (srv.view mid).ignored := contest_unignored hcalls hfirst hignored hbefore
  have hmid' : id ∉ (srv.view mid').ignored := (contest_step hcalls (hfrom x hmem) hstep hmid).1
  have hstays := contest_stays hcalls hlast hmid' hafter
  exact ⟨mid, mid', hstep, hmid, contest_stays hcalls hfirst hignored hbefore,
    fun hpresent => hstays (contest_present hcalls (hfrom x hmem) hstep hmid hpresent), hstays⟩

/-- As long as the record does not exist, it is not found. -/
theorem contest_not_found (habsent : ¬ (srv.view s').records.contains id = true) {who : ι}
    {http : HttpRequest} (hmethod : http.method = .get) {reply : HttpReply}
    (hmem : .asked who ⟨.send http, reply⟩ ∈ hs) : reply.succeeds = false := by
  obtain ⟨mid, mid', hstep, hmid, -, hstays, -⟩ := contest_at hcalls hfrom hignored htrail hmem
  obtain ⟨-, -, hfits⟩ := contest_step hcalls (hfrom _ hmem) hstep hmid
  have hfits' : HttpReply.Fits _ http.method reply := hfits
  rw [hmethod] at hfits'
  rw [show reply.succeeds = (srv.view mid).records.contains id from hfits', Bool.eq_false_iff]
  exact fun hpresent => habsent (hstays hpresent)

/-- A creation makes the record exist, which did not exist before. -/
theorem contest_created {who : ι} {x : Happening ι CentralStep.Reply Unit} (hmem : x ∈ hs)
    (hcreates : Creates who x) :
    ¬ (srv.view s).records.contains id = true ∧ (srv.view s').records.contains id = true := by
  obtain ⟨mid, mid', hstep, hmid, hbefore, -, hstays⟩ :=
    contest_at hcalls hfrom hignored htrail hmem
  obtain ⟨-, hget, hfits⟩ := contest_step hcalls (hfrom _ hmem) hstep hmid
  cases x with
  | moved m => exact hcreates.elim
  | asked who' e =>
      obtain ⟨step, reply⟩ := e
      cases step with
      | send http =>
          obtain ⟨rfl, hmethod, hsucceeds⟩ := hcreates
          constructor
          · intro hpresent
            have hfits' : HttpReply.Fits _ http.method reply := hfits
            rw [hmethod, hbefore hpresent] at hfits'
            have h409 : HttpReply.tells reply 409 = true := hfits'
            rw [HttpReply.succeeds_of_tells h409] at hsucceeds
            cases hsucceeds
          · refine hstays ?_
            rw [KeyMap.contains, hget, Happening.writer?, if_pos ⟨.inr hmethod, hsucceeds⟩]
            rfl
      | _ => exact hcreates.elim

/-- If the record comes to exist, and is updated only by calls that found it, then one of the calls
created it, and no other did. -/
theorem contest_creates
    (hfound : ∀ before who http reply after,
      hs = before ++ .asked who ⟨.send http, reply⟩ :: after → http.method = .put →
      ∃ http' found, http'.method = .get ∧ HttpReply.succeeds found = true ∧
        .asked who ⟨.send http', found⟩ ∈ before)
    (habsent : ¬ (srv.view s).records.contains id = true)
    (hpresent : (srv.view s').records.contains id = true) :
    ∃ who, (∃ x ∈ hs, Creates who x) ∧ ∀ y ∈ hs, ∀ who', Creates who' y → who' = who := by
  obtain ⟨before, x, after, mid, mid', rfl, hbefore, hstep, hafter, hmid, hmid'⟩ :=
    htrail.turn (P := fun s => (srv.view s).records.contains id = true) habsent hpresent
  have hfirst : ∀ y ∈ before, y.OfSync client calls := fun y hy => hfrom y (by simp [hy])
  have hlast : ∀ y ∈ after, y.OfSync client calls := fun y hy => hfrom y (by simp [hy])
  have hx : x.OfSync client calls := hfrom x (by simp)
  have hunignored := contest_unignored hcalls hfirst hignored hbefore
  obtain ⟨hunignored', hget, -⟩ := contest_step hcalls hx hstep hunignored
  have hwriter : ∃ who, x.writer? = some who := by
    cases hwriter : x.writer? with
    | some who => exact ⟨who, rfl⟩
    | none =>
        rw [hwriter, Option.elim_none] at hget
        exact absurd (by rwa [KeyMap.contains, hget] at hmid') hmid
  obtain ⟨who, hwriter⟩ := hwriter
  have hcreates : Creates who x := by
    cases x with
    | moved m => cases hwriter
    | asked who' e =>
        obtain ⟨step, reply⟩ := e
        cases step with
        | send http =>
            simp only [Happening.writer?, Option.ite_none_right_eq_some, Option.some.injEq]
              at hwriter
            obtain ⟨⟨hput | hpost, hsucceeds⟩, rfl⟩ := hwriter
            · -- An update needs a record that was found, but there was none.
              obtain ⟨http', found, hmethod, hhit, hmem⟩ := hfound _ _ _ _ _ rfl hput
              rw [contest_not_found hcalls hfirst hignored hbefore hmid hmethod hmem] at hhit
              cases hhit
            · exact ⟨rfl, hpost, hsucceeds⟩
        | _ => cases hwriter
  refine ⟨who, ⟨x, by simp, hcreates⟩, ?_⟩
  intro y hy who' hcreates'
  rcases List.mem_append.1 hy with hy | hy
  · exact absurd (contest_created hcalls hfirst hignored hbefore hy hcreates').2 hmid
  · rcases List.mem_cons.1 hy with rfl | hy
    · exact hcreates'.unique hcreates
    · exact absurd hmid' (contest_created hcalls hlast hunignored' hafter hy hcreates').1

end Trails

/-! ## The calls of a contest -/

theorem taken_sent (http : HttpRequest) (reply : HttpReply) (t : List Traffic) :
    taken (.sent http reply :: t) = taken t +
      if (http.method = .put ∨ http.method = .post) ∧ reply.succeeds = true then 1 else 0 := by
  simp only [taken, replies_sent, List.countP_append]
  cases http.method <;> cases hsucceeds : reply.succeeds <;> simp [hsucceeds] <;> omega

theorem writers_sent (who : ι) (http : HttpRequest) (reply : HttpReply)
    (hs : List (Happening ι CentralStep.Reply Unit)) :
    writers (.asked who ⟨.send http, reply⟩ :: hs) =
      (if (http.method = .put ∨ http.method = .post) ∧ reply.succeeds = true then [who] else []) ++
        writers hs := by
  simp only [writers, List.filterMap_cons, Happening.writer?]
  by_cases hwrite : (http.method = .put ∨ http.method = .post) ∧ reply.succeeds = true <;>
    simp [hwrite]

variable [DecidableEq ι] {hs : List (Happening ι CentralStep.Reply Unit)}

theorem mem_replies {method : HttpMethod} {reply : HttpReply} {who : ι} :
    reply ∈ replies method (traffic (ownHistory who hs)) ↔
      ∃ http, http.method = method ∧ .asked who ⟨.send http, reply⟩ ∈ hs := by
  simp only [replies, traffic, List.mem_filterMap]
  constructor
  · rintro ⟨step, ⟨⟨q, reply'⟩, hown, hstep⟩, hreply⟩
    cases q with
    | send http =>
        cases hstep
        simp only [Option.ite_none_right_eq_some, Option.some.injEq] at hreply
        obtain ⟨hmethod, rfl⟩ := hreply
        exact ⟨http, hmethod, mem_ownHistory.1 hown⟩
    | sleep d =>
        cases hstep
        cases hreply
    | _ => cases hstep
  · rintro ⟨http, hmethod, hmem⟩
    exact ⟨_, ⟨_, mem_ownHistory.2 hmem, rfl⟩, by simp [hmethod]⟩

/-- The successful writes of a call are those of its own traffic. -/
theorem count_writers (who : ι) :
    (writers hs).count who = taken (traffic (ownHistory who hs)) := by
  induction hs with
  | nil => rfl
  | cons x hs ih =>
      cases x with
      | moved m => exact ih
      | asked who' e =>
          obtain ⟨step, reply⟩ := e
          rw [ownHistory_asked]
          cases step with
          | send http =>
              have htraffic : traffic (⟨.send http, reply⟩ :: ownHistory who hs) =
                  .sent http reply :: traffic (ownHistory who hs) := rfl
              rw [writers_sent, List.count_append, ih]
              by_cases hown : who' = who
              · rw [if_pos hown, htraffic, taken_sent, hown, Nat.add_comm]
                split <;> simp
              · rw [if_neg hown]
                split <;> simp [hown]
          | _ => split <;> exact ih

/-- The call has created its record if its creation was successful. -/
theorem creates_iff {who : ι} :
    (∃ x ∈ hs, Creates who x) ↔
      ∃ reply ∈ replies .post (traffic (ownHistory who hs)), reply.succeeds = true := by
  constructor
  · rintro ⟨x, hmem, hcreates⟩
    cases x with
    | moved m => exact hcreates.elim
    | asked other e =>
        obtain ⟨step, reply⟩ := e
        cases step with
        | send http =>
            obtain ⟨rfl, hmethod, hsucceeds⟩ := hcreates
            exact ⟨reply, mem_replies.2 ⟨http, hmethod, hmem⟩, hsucceeds⟩
        | _ => exact hcreates.elim
  · rintro ⟨reply, hreply, hsucceeds⟩
    obtain ⟨http, hmethod, hmem⟩ := mem_replies.1 hreply
    exact ⟨_, hmem, rfl, hmethod, hsucceeds⟩

section Calls

variable {s s' : srv.State} {left : ι → Program CentralStep.Reply (Except CentralError SyncOutcome)}
  (hcalls : Contenders srv id calls)

/-- The calls send nothing but requests of syncs. -/
theorem contest_requests
    (h : Interleaving (contest srv id) (fun who => (calls who).program client) s hs left s') :
    ∀ x ∈ hs, x.OfSync client calls := by
  intro x hmem
  cases x with
  | moved m => trivial
  | asked who e =>
      have hsends := ((calls who).program_sends client).of_reaches (h.own who)
      obtain ⟨step, reply⟩ := e
      cases step with
      | send http => exact hsends.1 _ (mem_ownHistory.2 hmem)
      | _ => trivial

section Ended

variable (hcalls : Contenders srv id calls) {results : ι → Except CentralError SyncOutcome}
  (hignored : id ∉ (srv.view s).ignored)
  (h : Interleaving (contest srv id) (fun who => (calls who).program client) s hs
    (fun who => .done (results who)) s')
  {form : ContainerRequest → HttpRequest} {who : ι}
  (hform : ∀ r ∈ ContainerRequest.ofSync (calls who).record,
    r.http? ((calls who).session client).client = some (form r))

include hcalls hignored h hform

/-- The traffic of a call that has ended is that of its writing, after the question whether the
container is ignored, if that was sent. -/
theorem contest_traffic :
    ∃ t, WriteTraffic ((calls who).session client) (calls who).record form t (results who) ∧
      Seen ((srv.view s).records.contains id) t ∧
      (traffic (ownHistory who hs) = t ∨ ∃ http reply, http.method = .head ∧
        traffic (ownHistory who hs) = .sent http reply :: t) := by
  have hhead : (form (.isIgnored (calls who).record.id)).method = .head :=
    ContainerRequest.http?_method (hform _ (by simp))
  have hseen := contest_seen hcalls (contest_requests h) hignored h.trail who
  rcases CentralSession.sync_yields hform (hcalls.backoff who) (h.own who) with
    ⟨-, hwrite⟩ | hsync
  · exact ⟨_, hwrite, hseen, .inl rfl⟩
  · generalize traffic (ownHistory who hs) = t at hsync hseen
    generalize results who = outcome at hsync
    cases hsync with
    | @stopped reply h404 =>
        obtain ⟨now, -, hfits, -⟩ := hseen
        rw [hhead] at hfits
        rw [show reply.tells 404 = true from hfits] at h404
        cases h404
    | @written reply t _ h404 hwrite =>
        obtain ⟨now, hnow, -, hrest⟩ := hseen
        exact ⟨t, hwrite, hrest.weaken hnow, .inr ⟨_, reply, hhead, rfl⟩⟩

/-- A call that has ended has written once, and tells whether it has created its record. -/
theorem contest_call :
    (writers hs).count who = 1 ∧
      ((results who = .ok .created ∧ ∃ x ∈ hs, Creates who x) ∨
        (results who = .ok .updated ∧ ¬ ∃ x ∈ hs, Creates who x)) := by
  obtain ⟨t, hwrite, hseen, htraffic⟩ := contest_traffic hcalls hignored h hform
  have hreplies : ∀ method, method ≠ .head →
      replies method (traffic (ownHistory who hs)) = replies method t := by
    intro method hmethod
    rcases htraffic with heq | ⟨http, reply, hhead, heq⟩
    · rw [heq]
    · rw [heq, replies_sent, hhead, if_neg (Ne.symm hmethod), List.nil_append]
  rw [count_writers, creates_iff, taken, hreplies .put (by simp), hreplies .post (by simp)]
  obtain ⟨honce, ⟨hcreated, hsome⟩ | ⟨hupdated, hnone⟩⟩ :=
    hwrite.settled hform (hcalls.retries who) hseen
  · exact ⟨honce, .inl ⟨hcreated, hsome⟩⟩
  · refine ⟨honce, .inr ⟨hupdated, ?_⟩⟩
    rintro ⟨reply, hmem, hsucceeds⟩
    rw [hnone reply hmem] at hsucceeds
    cases hsucceeds

/-- A call that has ended updated its record only after it had found one. -/
theorem contest_found {before after : List (Happening ι CentralStep.Reply Unit)}
    {http : HttpRequest} {reply : HttpReply}
    (hsplit : hs = before ++ .asked who ⟨.send http, reply⟩ :: after)
    (hmethod : http.method = .put) :
    ∃ http' found, http'.method = .get ∧ HttpReply.succeeds found = true ∧
      .asked who ⟨.send http', found⟩ ∈ before := by
  obtain ⟨t, hwrite, -, htraffic⟩ := contest_traffic hcalls hignored h hform
  have hcut : traffic (ownHistory who hs) =
      traffic (ownHistory who before) ++ .sent http reply :: traffic (ownHistory who after) := by
    rw [hsplit, ownHistory_append, ownHistory_asked, if_pos rfl, traffic_append]
    rfl
  have hfound : ∃ found ∈ replies .get (traffic (ownHistory who before)),
      found.succeeds = true := by
    rcases htraffic with heq | ⟨head, answer, hhead, heq⟩
    · exact hwrite.found_before hform hmethod (heq.symm.trans hcut)
    · have hcons := heq.symm.trans hcut
      -- The cut is behind the first question, which is no update.
      generalize traffic (ownHistory who before) = first at hcons
      cases first with
      | nil =>
          obtain ⟨hsame, -⟩ := List.cons.inj hcons
          cases hsame
          rw [hhead] at hmethod
          cases hmethod
      | cons step first =>
          obtain ⟨rfl, hrest⟩ := List.cons.inj hcons
          obtain ⟨found, hmem, hsucceeds⟩ := hwrite.found_before hform hmethod hrest
          exact ⟨found, by rw [replies_sent]; exact List.mem_append_right _ hmem, hsucceeds⟩
  obtain ⟨found, hmem, hsucceeds⟩ := hfound
  obtain ⟨http', hget, hasked⟩ := mem_replies.1 hmem
  exact ⟨http', found, hget, hsucceeds, hasked⟩

end Ended

end Calls

/-! ## The outcome of a contest -/

/-- How a contest has ended. -/
structure Settled (calls : ι → Rival) (id : String) (s : CentralState)
    (hs : List (Happening ι CentralStep.Reply Unit))
    (results : ι → Except CentralError SyncOutcome) (s' : CentralState) : Prop where
  succeeds : ∀ who, results who = .ok .created ∨ results who = .ok .updated
  one_write : ∀ who, (writers hs).count who = 1
  one_creation : s.records.contains id = false → ∃! who, results who = .ok .created
  no_creation : s.records.contains id = true → ∀ who, results who = .ok .updated
  last_write : ∃ who, (writers hs).getLast? = some who ∧
    s'.records.get? id = some (calls who).record

theorem contest_settled [Nonempty ι] (hcalls : Contenders srv id calls) {s s' : srv.State}
    (hignored : id ∉ (srv.view s).ignored) {results : ι → Except CentralError SyncOutcome}
    (h : Interleaving (contest srv id) (fun who => (calls who).program client) s hs
      (fun who => .done (results who)) s') :
    Settled calls id (srv.view s) hs results (srv.view s') := by
  have hform : ∀ who, ∀ r ∈ ContainerRequest.ofSync (calls who).record,
      r.http? client = some (r.form client) := by
    intro who r hr
    obtain ⟨http, hhttp, -⟩ := srv.serves r (hcalls.handled who r hr)
    exact ContainerRequest.http?_form hhttp
  have hfrom := contest_requests h
  have hcall := fun who => contest_call hcalls hignored h (hform who)
  -- Every call has written, so there is a last write.
  have hlast : ∃ who, (writers hs).getLast? = some who := by
    obtain ⟨who⟩ := ‹Nonempty ι›
    have hmem : who ∈ writers hs := List.count_pos_iff.1 (by rw [(hcall who).1]; exact Nat.one_pos)
    exact ⟨_, List.getLast?_eq_some_getLast (List.ne_nil_of_mem hmem)⟩
  obtain ⟨writer, hwriter⟩ := hlast
  have hget : (srv.view s').records.get? id = some (calls writer).record := by
    rw [contest_last hcalls hfrom hignored h.trail, hwriter, Option.elim_some]
  have hpresent : (srv.view s').records.contains id = true := by
    rw [KeyMap.contains, hget]
    rfl
  have hcreated : ∀ who, results who = .ok .created ↔ ∃ x ∈ hs, Creates who x := by
    intro who
    rcases (hcall who).2 with ⟨hresult, hsome⟩ | ⟨hresult, hnone⟩
    · exact iff_of_true hresult hsome
    · refine iff_of_false ?_ hnone
      rw [hresult]
      simp
  constructor
  case succeeds => exact fun who => (hcall who).2.imp And.left And.left
  case one_write => exact fun who => (hcall who).1
  case last_write => exact ⟨writer, hwriter, hget⟩
  case one_creation =>
    intro habsent
    obtain ⟨who, hcreates, hunique⟩ := contest_creates hcalls hfrom hignored h.trail
      (fun before who _ _ after hsplit hput =>
        contest_found hcalls hignored h (hform who) hsplit hput)
      (by simp [habsent]) hpresent
    refine ⟨who, (hcreated who).2 hcreates, ?_⟩
    intro who' hresult
    obtain ⟨x, hmem, hx⟩ := (hcreated who').1 hresult
    exact hunique x hmem who' hx
  case no_creation =>
    intro hexists who
    rcases (hcall who).2 with ⟨-, x, hmem, hcreates⟩ | ⟨hresult, -⟩
    · exact absurd hexists (contest_created hcalls hfrom hignored h.trail hmem hcreates).1
    · exact hresult

/-- Calls take turns to sync records of one container that is not ignored, in any order, with a
server that creates no record twice. However far they have come, they can all come to an end, and
when they have ended all were successful with one write each. One call has created its record if
there was none at the start, and no call if there was one, and all others have updated it. The
record in the end is that of the last write. -/
theorem contest_settles [Finite ι] [Nonempty ι] (hcalls : Contenders srv id calls)
    {s s' : srv.State} (hignored : id ∉ (srv.view s).ignored)
    {left : ι → Program CentralStep.Reply (Except CentralError SyncOutcome)}
    (h : Interleaving (contest srv id) (fun who => (calls who).program client) s hs left s') :
    (∃ more, ∃ results : ι → Except CentralError SyncOutcome, ∃ s'',
      Interleaving (contest srv id) (fun who => (calls who).program client) s (hs ++ more)
        (fun who => .done (results who)) s'') ∧
      ∀ results, (∀ who, left who = .done (results who)) →
        Settled calls id (srv.view s) hs results (srv.view s') := by
  constructor
  · refine h.complete ?_
    intro t who step
    cases step with
    | send http => exact ⟨_, _, rfl, rfl⟩
    | isKnown id' => exact ⟨false, t, rfl⟩
    | _ => exact ⟨(), t, rfl⟩
  · intro results hleft
    obtain rfl : left = fun who => .done (results who) := funext hleft
    exact contest_settled hcalls hignored h

/-! ## A race of two calls

Both calls find no record, and both create one. The second creation is in conflict, and its record
is found and updated. -/

/-- The record of the same container when it has stopped. -/
def stoppedRecord : ContainerRecord := { runningRecord with status := .exited }

def raceCalls : Bool → Rival
  | true => ⟨runningRecord, 3, .ofMillis 200⟩
  | false => ⟨stoppedRecord, 1, .ofMillis 100⟩

def raceRequests : List ContainerRequest :=
  ContainerRequest.ofSync runningRecord ++ [.update stoppedRecord, .create stoppedRecord]

/-- No container is ever ignored. -/
def noLists : List (List String) := [[]]

theorem noLists_closed : ∀ ids ∈ noLists, ∀ id, ids.filter (· ≠ id) ∈ noLists := by
  simp [noLists]

theorem noLists_listed : ∀ ids ∈ noLists, ∃ entries,
    Json.decodeText (.list IgnoreEntry.decoder) "[]" = .ok entries ∧
      (entries.map IgnoreEntry.containerId).Perm ids := by
  intro ids hids
  obtain rfl : ids = [] := by simpa [noLists] using hids
  exact ⟨[], rfl, .nil⟩

theorem nil_mem_noLists : [] ∈ noLists := List.mem_cons_self

def raceServer : CentralServer plainSession.client (· ∈ raceRequests) :=
  .ofTable plainSession.client raceRequests noLists (fun _ => "[]")
    (by decide +kernel)
    (by decide +kernel)
    noLists_closed
    noLists_listed

/-- A step of one of the calls. -/
def sends (who : Bool) (r : ContainerRequest) (status : UInt16) :
    Happening Bool CentralStep.Reply Unit :=
  .asked who ⟨.send (r.form plainSession.client), some ⟨status, ""⟩⟩

def race : List (Happening Bool CentralStep.Reply Unit) :=
  [.asked true ⟨.isKnown "x", false⟩, .asked false ⟨.isKnown "x", false⟩,
    sends true (.isIgnored "x") 404, sends false (.isIgnored "x") 404,
    .asked true ⟨.remember "x", ()⟩, .asked false ⟨.remember "x", ()⟩,
    sends true (.hasRecord "x") 404, sends false (.hasRecord "x") 404,
    sends true (.create runningRecord) 201, sends false (.create stoppedRecord) 409,
    .asked false ⟨.sleep (.ofMillis 100), ()⟩,
    sends false (.hasRecord "x") 200, sends false (.update stoppedRecord) 200]

def raceStart : raceServer.State := ⟨⟨∅, [], []⟩, nil_mem_noLists⟩

/-- The server with one record of the container. -/
def raceHolds (record : ContainerRecord) : raceServer.State :=
  ⟨⟨(∅ : KeyMap ContainerRecord).insert "x" record, [], []⟩, nil_mem_noLists⟩

def raceResults : Bool → Except CentralError SyncOutcome
  | true => .ok .created
  | false => .ok .updated

theorem race_respond {r : ContainerRequest} (hr : r ∈ raceRequests) (s : raceServer.State) :
    (raceServer.respond s (r.form plainSession.client)).1 = (obey (fun _ => "[]") s.1 r).1 ∧
      (raceServer.respond s (r.form plainSession.client)).2.1 = (obey (fun _ => "[]") s.1 r).2 := by
  unfold raceServer
  exact CentralServer.ofTable_respond hr s

theorem race_contenders : Contenders raceServer "x" raceCalls where
  same who := by cases who <;> rfl
  handled who := by cases who <;> decide
  retries who := by cases who <;> decide
  backoff who := by cases who <;> decide +kernel
  strict := by
    intro who s hpresent
    have hrequest : .create (raceCalls who).record ∈ raceRequests := by cases who <;> decide
    have hid : (raceCalls who).record.id = "x" := by cases who <;> rfl
    have hcontains : s.1.records.contains "x" = true := hpresent
    rw [(race_respond hrequest s).1]
    simp [obey, hid, hcontains]

theorem race_step {s s' : raceServer.State} {who : Bool} {r : ContainerRequest} {status : UInt16}
    (hr : r ∈ raceRequests) (h : obey (fun _ => "[]") s.1 r = (⟨status, ""⟩, s'.1)) :
    contest raceServer "x" s (sends who r status) s' := by
  obtain ⟨hreply, hstate⟩ := race_respond hr s
  rw [h] at hreply hstate
  exact ⟨congrArg some hreply.symm, Subtype.ext hstate.symm⟩

theorem race_trail : Trail (contest raceServer "x") raceStart race (raceHolds stoppedRecord) := by
  have hkeeps : ∀ (s : raceServer.State) (who : Bool) (r : ContainerRequest) (status : UInt16),
      r ∈ raceRequests → obey (fun _ => "[]") s.1 r = (⟨status, ""⟩, s.1) →
      contest raceServer "x" s (sends who r status) s :=
    fun _ _ _ _ hr h => race_step hr h
  have hfind : Trail (contest raceServer "x") raceStart (race.take 8) raceStart :=
    .cons rfl (.cons rfl (.cons (hkeeps _ _ _ _ (by decide) rfl) (.cons
      (hkeeps _ _ _ _ (by decide) rfl) (.cons rfl (.cons rfl (.cons
      (hkeeps _ _ _ _ (by decide) rfl) (.cons (hkeeps _ _ _ _ (by decide) rfl) (.nil _))))))))
  have hcreate : contest raceServer "x" raceStart (sends true (.create runningRecord) 201)
      (raceHolds runningRecord) := race_step (by decide) rfl
  have hupdate : contest raceServer "x" (raceHolds runningRecord)
      (sends false (.update stoppedRecord) 200) (raceHolds stoppedRecord) :=
    race_step (by decide) rfl
  have hsettle : Trail (contest raceServer "x") (raceHolds runningRecord) (race.drop 9)
      (raceHolds stoppedRecord) :=
    .cons (hkeeps _ _ _ _ (by decide) rfl) (.cons rfl (.cons (hkeeps _ _ _ _ (by decide) rfl)
      (.cons hupdate (.nil _))))
  exact (Trail.append_iff (race.take 8) _).2 ⟨raceStart, hfind, .cons hcreate hsettle⟩

theorem race_interleaving :
    Interleaving (contest raceServer "x") (fun who => (raceCalls who).program plainSession.client)
      raceStart race (fun who => .done (raceResults who)) (raceHolds stoppedRecord) where
  trail := race_trail
  own := by
    intro who
    cases who with
    | true =>
        show Program.Reaches _ _ _
        exact .ask _ _ _ (.ask _ _ _ (.ask _ _ _ (.ask _ _ _ (.ask _ _ _ (.here _)))))
    | false =>
        exact .ask _ _ _ (.ask _ _ _ (.ask _ _ _ (.ask _ _ _ (.ask _ _ _ (.ask _ _ _ (.ask _ _ _
          (.ask _ _ _ (.here _))))))))

/-- The call that updates has found the record of the other, and its own is the last. -/
theorem contest_settles_race :
    (∃! who, raceResults who = .ok .created) ∧ (writers race).count false = 1 ∧
      ∃ who, (writers race).getLast? = some who ∧
        (raceServer.view (raceHolds stoppedRecord)).records.get? "x" =
          some (raceCalls who).record := by
  have hignored : "x" ∉ (raceServer.view raceStart).ignored := List.not_mem_nil
  obtain ⟨-, hsettled⟩ := contest_settles race_contenders hignored race_interleaving
  obtain ⟨-, hwrites, hcreation, -, hlast⟩ := hsettled raceResults fun _ => rfl
  exact ⟨hcreation rfl, hwrites false, hlast⟩

end HostAgent
