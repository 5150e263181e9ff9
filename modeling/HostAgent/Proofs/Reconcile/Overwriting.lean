import HostAgent.Proofs.Central.Rivals
import HostAgent.Proofs.Reconcile.Records

/-!
# Syncs that overtake each other

The loops sync the same container at the same time, and the container changes in
between. A sync looks at the container first and writes its record last, and
nothing orders these steps among different syncs. The server keeps the record of
the last write it took, and that is what the call that wrote it had found. If
another call looked at the container later, but wrote earlier, its record is
lost.

A write is always taken if one sync has ended. The question whether there is a
record is answered truly, so as long as nothing is written the write that follows
from the answer cannot be refused.

## Main results

* `sync_writes`: what a sync that has ended has asked and written.
* `stored_step`: which single steps change a record, and to what.
* `some_write_taken`: a sync that has ended was not in vain.
* `last_write_stands`: the record in the end is that of the last write.
* `later_look_lost`: a course of events in which it is not that of the last look.
-/

namespace HostAgent

/-! ## Writes and other requests -/

section Requests

variable {s s' : CentralState} {response : HttpResponse} {r : ContainerRequest}

/-- A write that is successful stores its record. -/
theorem Serves.takes (h : Serves s response s' r) {record : ContainerRecord}
    (hr : r = .update record ∨ r = .create record) (hsuccess : response.isSuccess = true) :
    s'.records.get? record.id = some record := by
  have hmem : r ∈ ContainerRequest.ofSync record := by
    rw [ContainerRequest.mem_ofSync]
    exact .inr (.inr hr)
  have hwrite : r.method = .put ∨ r.method = .post := by
    rcases hr with rfl | rfl
    · exact .inl rfl
    · exact .inr rfl
  rw [(h.stores hmem).2, if_pos ⟨hwrite, hsuccess⟩]

/-- A record stays as it is, unless it is deleted or another is written in its place. -/
theorem Serves.leaves (h : Serves s response s' r) {id : String} (hdelete : r ≠ .delete id)
    (hwrite : ¬ (response.isSuccess = true ∧ ∃ record, record.id = id ∧
      (r = .update record ∨ r = .create record))) :
    s'.records.get? id = s.records.get? id := by
  have hstore : ∀ record, (r = .update record ∨ r = .create record) →
      response.isSuccess = true → (s.store record).records.get? id = s.records.get? id := by
    intro record hr hsuccess
    have hne : id ≠ record.id := fun heq => hwrite ⟨hsuccess, record, heq.symm, hr⟩
    rw [CentralState.store, KeyMap.get?_insert, if_neg hne]
  cases r with
  | isIgnored id' => rw [h.1]
  | unignore id' => rw [h.1, CentralState.unignore]
  | listIgnored => rw [h.1]
  | hasRecord id' => rw [h.1]
  | update record =>
      rcases h with ⟨hsuccess, rfl⟩ | ⟨-, -, rfl⟩
      · exact hstore record (.inl rfl) hsuccess
      · rfl
  | create record =>
      rcases h with ⟨hsuccess, rfl⟩ | ⟨-, -, rfl⟩
      · exact hstore record (.inr rfl) hsuccess
      · rfl
  | delete id' =>
      have hne : id ≠ id' := fun heq => hdelete (heq ▸ rfl)
      rw [h.1, CentralState.drop, KeyMap.get?_erase, if_neg hne]

end Requests

/-- The write with which a sync begins, once it was asked whether there is a record. -/
def firstWrite (record : ContainerRecord) (found : HttpReply) : ContainerRequest :=
  if found.succeeds then .update record else .create record

theorem firstWrite_cases (record : ContainerRecord) (found : HttpReply) :
    firstWrite record found = .update record ∨ firstWrite record found = .create record := by
  unfold firstWrite
  split
  · exact .inl rfl
  · exact .inr rfl

/-- If there is a record just if there was one when a sync asked for it, its write is taken. -/
theorem Serves.firstWrite_taken {s s' t t' : CentralState} {found written : HttpResponse}
    {record : ContainerRecord} (hfound : Serves s found s' (.hasRecord record.id))
    (hwritten : Serves t written t' (firstWrite record (some found)))
    (hsame : t.records.contains record.id = s.records.contains record.id) :
    written.isSuccess = true := by
  have htold : t.records.contains record.id = found.isSuccess := hsame.trans hfound.2.symm
  cases hpresent : found.isSuccess with
  | true =>
      rw [firstWrite, HttpReply.succeeds_some, if_pos hpresent] at hwritten
      rcases hwritten with ⟨hsuccess, -⟩ | ⟨habsent, -⟩
      · exact hsuccess
      · rw [htold, hpresent] at habsent
        cases habsent
  | false =>
      rw [firstWrite, HttpReply.succeeds_some, hpresent, if_neg (by simp)] at hwritten
      rcases hwritten with ⟨hsuccess, -⟩ | ⟨hthere, -⟩
      · exact hsuccess
      · rw [htold, hpresent] at hthere
        cases hthere

/-- Before anything else, a sync asks for the record and writes. -/
theorem WriteTraffic.begins {session : CentralSession} {record : ContainerRecord}
    {form : ContainerRequest → HttpRequest} {t : List Traffic}
    {outcome : Except CentralError SyncOutcome} (h : WriteTraffic session record form t outcome) :
    ∃ found written rest, t = .sent (form (.hasRecord record.id)) found ::
      .sent (form (firstWrite record found)) written :: rest := by
  cases h with
  | @updated found written hfound => exact ⟨found, written, [], by rw [firstWrite, if_pos hfound]⟩
  | @created found written hfound _ => exact ⟨found, written, [], by simp [firstWrite, hfound]⟩
  | @recovered found refused _ _ _ hfound =>
      exact ⟨found, refused, _, by simp only [firstWrite, hfound]; rfl⟩
  | @abandoned found refused _ hfound =>
      exact ⟨found, refused, _, by simp only [firstWrite, hfound]; rfl⟩

/-- A request that shows outside was sent. -/
theorem mem_of_traffic {past : List (Asked CentralStep.Reply)} {http : HttpRequest}
    {reply : HttpReply} (h : .sent http reply ∈ traffic past) : ⟨.send http, reply⟩ ∈ past := by
  obtain ⟨e, he, hsent⟩ := List.mem_filterMap.1 h
  obtain ⟨step, got⟩ := e
  cases step with
  | send http' =>
      cases hsent
      exact he
  | _ => cases hsent

/-- A sync that is never told anything but that the container is not ignored asks for the record
and writes it. -/
theorem CentralSession.sync_begins {session : CentralSession} {record : ContainerRecord}
    {form : ContainerRequest → HttpRequest}
    (hform : ∀ r ∈ ContainerRequest.ofSync record, r.http? session.client = some (form r))
    (hbackoff : session.conflictBackoff.nanos ≤ Duration.longest.nanos)
    {past : List (Asked CentralStep.Reply)} {outcome : Except CentralError SyncOutcome}
    (h : (session.sync record).run.Yields past outcome)
    (hunignored : ∀ (http : HttpRequest) reply, ⟨.send http, reply⟩ ∈ past → http.method = .head →
      HttpReply.tells reply 404 = true) :
    ∃ found written, ⟨.send (form (.hasRecord record.id)), found⟩ ∈ past ∧
      ⟨.send (form (firstWrite record found)), written⟩ ∈ past := by
  have hwrites : ∃ t, WriteTraffic session record form t outcome ∧ ∀ x ∈ t, x ∈ traffic past := by
    rcases sync_yields hform hbackoff h with ⟨-, hwrite⟩ | hsync
    · exact ⟨_, hwrite, fun _ hx => hx⟩
    · generalize htraffic : traffic past = t at hsync
      cases hsync with
      | @stopped reply h404 =>
          have hhead : (form (.isIgnored record.id)).method = .head :=
            ContainerRequest.http?_method (hform _ List.mem_cons_self)
          have hsaid := hunignored _ reply (mem_of_traffic (htraffic ▸ List.mem_cons_self)) hhead
          rw [hsaid] at h404
          cases h404
      | @written reply t _ h404 hwrite => exact ⟨t, hwrite, fun _ => List.mem_cons_of_mem _⟩
  obtain ⟨t, hwrite, hsub⟩ := hwrites
  obtain ⟨found, written, rest, rfl⟩ := hwrite.begins
  exact ⟨found, written, mem_of_traffic (hsub _ (by simp)), mem_of_traffic (hsub _ (by simp))⟩

/-! ## A call among the steps of the agent -/

/-- A step of a call, as a step of the agent. -/
def Asked.ofCall (e : Asked CentralStep.Reply) : Asked AgentStep.Reply :=
  ⟨.exchange e.question, e.reply⟩

theorem Program.yields_expand {α : Type} {p : Program CentralStep.Reply α}
    {past : List (Asked AgentStep.Reply)} {a : α}
    (h : (p.expand fun s => .ask (AgentStep.exchange s) .done).Yields past a) :
    ∃ steps, p.Yields steps a ∧ past = steps.map Asked.ofCall := by
  induction p generalizing past with
  | done b =>
      obtain ⟨rfl, rfl⟩ := (yields_done _ _ _).1 h
      exact ⟨[], .here _, rfl⟩
  | ask s k ih =>
      obtain ⟨reply, rest, rfl, hrest⟩ := (yields_ask _ _ _ _).1 h
      obtain ⟨steps, hsteps, rfl⟩ := ih reply hrest
      exact ⟨⟨s, reply⟩ :: steps, .ask s k reply hsteps, rfl⟩

namespace Reconcile

open Work (fine)

variable {ι : Type} {session : CentralSession} {handles : ContainerRequest → Prop}
  {srv : CentralServer session.client handles} {hostId id : String}

/-! ## A sync that has ended -/

/-- What a sync has done when it has ended: it has inspected the container, and made a whole call
about what it found, if anything. -/
theorem sync_steps {past : List (Asked AgentStep.Reply)} {result : Except SyncError Unit}
    (h : (fine session ((Job.sync id).work hostId)).Yields past result) :
    ∃ reply more, past = ⟨.act (.engine (.inspect id)), reply⟩ :: more ∧
      ∀ d, reply = .ok d → ∃ steps outcome rest, more = steps.map Asked.ofCall ++ rest ∧
        (session.sync (d.record hostId)).run.Yields steps outcome := by
  rw [fine_syncJob] at h
  obtain ⟨reply, more, rfl, hmore⟩ := (Program.yields_ask _ _ _ _).1 h
  refine ⟨reply, more, rfl, ?_⟩
  rintro d rfl
  obtain ⟨synced, last, _, rfl, hsynced, -⟩ := (Program.yields_bind _ _ _ _).1 hmore
  rw [afterInspect, Work.fine_call, Work.stepwise] at hsynced
  obtain ⟨calls, rest, outcome, rfl, hcalls, -⟩ := (Program.yields_bind _ _ _ _).1 hsynced
  obtain ⟨steps, hsteps, rfl⟩ := Program.yields_expand hcalls
  exact ⟨steps, outcome, rest ++ last, List.append_assoc _ _ _, hsteps⟩

/-- A sync inspects its container once. -/
theorem inspected_unique {past : List (Asked AgentStep.Reply)}
    {rest : Program AgentStep.Reply (Except SyncError Unit)}
    (h : (fine session ((Job.sync id).work hostId)).Reaches past rest) {d d' : ContainerDetail}
    (hd : inspected id d ∈ past) (hd' : inspected id d' ∈ past) : d = d' := by
  rcases sync_history h with rfl | ⟨found, more, rfl, hnothing, hsends⟩
  · cases hd
  · have hlater : ∀ d, inspected id d ∉ more := by
      intro d hmem
      cases found with
      | error e =>
          rw [hnothing e rfl] at hmem
          cases hmem
      | ok found => exact hsends found rfl _ hmem
    have hfirst : ∀ d, inspected id d ∈ ⟨.act (.engine (.inspect id)), found⟩ :: more →
        found = .ok d := by
      intro d hmem
      rcases List.mem_cons.1 hmem with heq | hmem
      · cases heq
        rfl
      · exact absurd hmem (hlater d)
    exact Except.ok.inj ((hfirst d hd).symm.trans (hfirst d' hd'))

/-- A sync asks the server nothing before it has found something. -/
theorem inspected_before {first second : List (Asked AgentStep.Reply)} {step : CentralStep}
    {reply : step.Reply} {rest : Program AgentStep.Reply (Except SyncError Unit)}
    (h : (fine session ((Job.sync id).work hostId)).Reaches
      (first ++ ⟨.exchange step, reply⟩ :: second) rest) : ∃ d, inspected id d ∈ first := by
  rcases sync_history h with hnone | ⟨found, more, hpast, hnothing, -⟩
  · simp at hnone
  · cases first with
    | nil => cases hpast
    | cons e first =>
        obtain ⟨rfl, rfl⟩ := List.cons.inj hpast
        cases found with
        | error e => simp at hnothing
        | ok d => exact ⟨d, List.mem_cons_self⟩

variable [DecidableEq ι] {jobs : ι → Job} {s s' : Site srv}
  {hs : List (Happening ι AgentStep.Reply SiteMove)}
  {left : ι → Program AgentStep.Reply (Except SyncError Unit)}

/-- Nothing stands in the way of syncing a container: it is there whenever it is inspected, the
server says that it is not ignored, and nobody forgets it. -/
structure Unhindered (id : String) (jobs : ι → Job)
    (hs : List (Happening ι AgentStep.Reply SiteMove)) : Prop where
  found : ∀ who reply, .asked who ⟨.act (.engine (.inspect id)), reply⟩ ∈ hs → ∃ d, reply = .ok d
  unignored : ∀ who (http : HttpRequest) reply, jobs who = .sync id →
    .asked who ⟨.exchange (.send http), reply⟩ ∈ hs → http.method = .head →
      HttpReply.tells reply 404 = true
  kept : ∀ who, jobs who ≠ .forget id

/-- A call found this, and no call looked at the container after it. -/
def LastInspected (id : String) (hs : List (Happening ι AgentStep.Reply SiteMove)) (who : ι)
    (d : ContainerDetail) : Prop :=
  ∃ before after, hs = before ++ .asked who (inspected id d) :: after ∧
    ∀ other reply, .asked other ⟨.act (.engine (.inspect id)), reply⟩ ∉ after

omit [DecidableEq ι] in
theorem LastInspected.mem {who : ι} {d : ContainerDetail} (h : LastInspected id hs who d) :
    .asked who (inspected id d) ∈ hs := by
  obtain ⟨before, after, rfl, -⟩ := h
  simp

/-! ## Single steps -/

omit [DecidableEq ι] in
/-- Only a job that forgets a container may ask to delete its record. -/
theorem forget_of_mayDelete {past : List (Asked AgentStep.Reply)} {job : Job}
    (hmay : job.MayAsk hostId past (.delete id)) : job = .forget id := by
  cases job with
  | sync id' =>
      obtain ⟨d, -, hr⟩ := hmay
      simp at hr
  | forget id' =>
      rcases hmay with heq | heq
      · cases heq
        rfl
      · cases heq

section Steps

variable (h : Interleaving (scene srv) (fun who => fine session ((jobs who).work hostId)) s hs left
  s')

include h

/-- What a sync writes is the record of what it found. -/
theorem written_found {who : ι} {d : ContainerDetail} (hsync : jobs who = .sync id)
    (hfound : .asked who (inspected id d) ∈ hs) {r : ContainerRequest}
    (hmay : (jobs who).MayAsk hostId (ownHistory who hs) r) {record : ContainerRecord}
    (hr : r = .update record ∨ r = .create record) : record = d.record hostId := by
  have hown := h.own who
  rw [hsync] at hown hmay
  obtain ⟨d', hfound', hr'⟩ := hmay
  obtain rfl := inspected_unique hown (mem_ownHistory.2 hfound) hfound'
  rcases hr with rfl | rfl <;> simpa [ContainerRequest.ofSync] using hr'

/-- A step writes what a sync of the container found, or leaves its record as it is. -/
theorem stored_step (hcovers : Covers handles hostId jobs hs) (hkept : ∀ who, jobs who ≠ .forget id)
    {x : Happening ι AgentStep.Reply SiteMove} (hx : x ∈ hs) {t t' : Site srv}
    (hstep : scene srv t x t') :
    (∃ who d, jobs who = .sync id ∧ .asked who (inspected id d) ∈ hs ∧
        Writes session.client who (d.record hostId) x ∧
        t'.central.records.get? id = some (d.record hostId)) ∨
      (¬ WritesFound session.client hostId jobs hs id x ∧
        t'.central.records.get? id = t.central.records.get? id) := by
  cases x with
  | moved m =>
      have hsame : t'.central.records = t.central.records := by
        cases m with
        | fleet m => rw [Site.central, hstep.2, Site.central]
        | elsewhere => exact hstep.2
      exact .inr ⟨by simp [WritesFound, Writes], by rw [hsame]⟩
  | asked who e =>
      obtain ⟨q, reply⟩ := e
      cases q with
      | act a =>
          have hsame : t' = t := by
            cases a with
            | engine call => exact hstep.1
            | _ => exact hstep
          exact .inr ⟨by simp [WritesFound, Writes], by rw [hsame]⟩
      | exchange step =>
          cases step with
          | send http =>
              obtain ⟨r, hmay, hhttp⟩ := Job.request (h.own who) (mem_ownHistory.2 hx)
              obtain ⟨response, rfl, hserves⟩ := scene_serves (may_handles hcovers hmay) hhttp hstep
              by_cases hwrites : WritesFound session.client hostId jobs hs id
                (.asked who ⟨.exchange (.send http), some response⟩)
              · obtain ⟨hsuccess, record, hrecord, hr⟩ := (writesFound_iff h hmay hhttp).1 hwrites
                obtain ⟨_, d, hsync, hfound, rfl, -⟩ := hwrites
                obtain rfl := written_found h hsync hfound hmay hr
                obtain rfl : d.id = id := hrecord
                refine .inl ⟨_, d, hsync, hfound, ⟨rfl, hsuccess, ?_⟩, hserves.takes hr hsuccess⟩
                rcases hr with rfl | rfl
                · exact .inl hhttp
                · exact .inr hhttp
              · refine .inr ⟨hwrites, hserves.leaves ?_ ?_⟩
                · rintro rfl
                  exact hkept who (forget_of_mayDelete hmay)
                · exact fun hwrite => hwrites ((writesFound_iff h hmay hhttp).2 hwrite)
          | _ => exact .inr ⟨by simp [WritesFound, Writes], by rw [show t' = t from hstep]⟩

/-- As long as no sync of the container writes, its record stays as it is. -/
theorem unwritten_stays (hcovers : Covers handles hostId jobs hs)
    (hkept : ∀ who, jobs who ≠ .forget id) {part : List (Happening ι AgentStep.Reply SiteMove)}
    (hpart : ∀ x ∈ part, x ∈ hs ∧ ¬ WritesFound session.client hostId jobs hs id x)
    {t t' : Site srv} (htrail : Trail (scene srv) t part t') :
    t'.central.records.get? id = t.central.records.get? id := by
  refine htrail.invariant (P := fun u => u.central.records.get? id = t.central.records.get? id) ?_
    rfl
  intro u x u' hx hsame hstep
  obtain ⟨hmem, hunwritten⟩ := hpart x hx
  rcases stored_step h hcovers hkept hmem hstep with ⟨who, d, hsync, hfound, hwrites, -⟩ | ⟨-, hget⟩
  · exact absurd ⟨who, d, hsync, hfound, hwrites⟩ hunwritten
  · exact hget.trans hsame

/-- As long as no sync of the container writes, every request finds its record as it was in the
beginning. -/
theorem unwritten_serves (hcovers : Covers handles hostId jobs hs)
    (hkept : ∀ who, jobs who ≠ .forget id)
    (hunwritten : ∀ x ∈ hs, ¬ WritesFound session.client hostId jobs hs id x) {r : ContainerRequest}
    (hr : handles r) {http : HttpRequest} (hhttp : r.http? session.client = some http) {who : ι}
    {reply : Option HttpResponse} (hx : .asked who ⟨.exchange (.send http), reply⟩ ∈ hs) :
    ∃ t response t', reply = some response ∧ Serves t response t' r ∧
      t.records.get? id = s.central.records.get? id := by
  obtain ⟨before, after, mid, mid', hsplit, hbefore, hstep, -⟩ := h.trail.of_mem hx
  obtain ⟨response, rfl, hserves⟩ := scene_serves hr hhttp hstep
  refine ⟨_, response, _, rfl, hserves, unwritten_stays h hcovers hkept ?_ hbefore⟩
  intro x hx
  have hmem : x ∈ hs := hsplit ▸ List.mem_append_left _ hx
  exact ⟨hmem, hunwritten x hmem⟩

end Steps

/-! ## The last write -/

/-- A sync that has ended, or some other in its place, has written what it found. -/
theorem some_write_taken
    (h : Interleaving (scene srv) (fun who => fine session ((jobs who).work hostId)) s hs left s')
    (hcovers : Covers handles hostId jobs hs) (hclear : Unhindered id jobs hs)
    (hbackoff : session.conflictBackoff.nanos ≤ Duration.longest.nanos) {who : ι}
    (hsync : jobs who = .sync id) {result : Except SyncError Unit}
    (hended : left who = .done result) :
    ∃ x ∈ hs, WritesFound session.client hostId jobs hs id x := by
  by_contra hnone
  have hunwritten : ∀ x ∈ hs, ¬ WritesFound session.client hostId jobs hs id x :=
    fun x hx hwrites => hnone ⟨x, hx, hwrites⟩
  have hown := h.own who
  rw [hsync, hended] at hown
  obtain ⟨reply, more, hpast, hcall⟩ := sync_steps hown
  have hmem : ∀ e ∈ ownHistory who hs, .asked who e ∈ hs := fun e => mem_ownHistory.1
  rw [hpast] at hmem
  obtain ⟨d, rfl⟩ := hclear.found who reply (hmem _ List.mem_cons_self)
  obtain ⟨steps, outcome, rest, rfl, hsteps⟩ := hcall d rfl
  have hfound : .asked who (inspected id d) ∈ hs := hmem _ List.mem_cons_self
  have hsent : ∀ e ∈ steps, .asked who e.ofCall ∈ hs := fun e he =>
    hmem _ (List.mem_cons_of_mem _ (List.mem_append_left _ (List.mem_map_of_mem he)))
  have hid : (d.record hostId).id = id := (inspected_true h.trail hfound).1
  have hhandles := hcovers.sync who id d hsync hfound
  have hform : ∀ r ∈ ContainerRequest.ofSync (d.record hostId),
      r.http? session.client = some (r.form session.client) := by
    intro r hr
    obtain ⟨http, hhttp, -⟩ := srv.serves r (hhandles r hr)
    exact ContainerRequest.http?_form hhttp
  have hserved : ∀ r ∈ ContainerRequest.ofSync (d.record hostId), ∀ reply,
      ⟨.send (r.form session.client), reply⟩ ∈ steps → ∃ t response t', reply = some response ∧
        Serves t response t' r ∧ t.records.get? id = s.central.records.get? id :=
    fun r hr reply he =>
      unwritten_serves h hcovers hclear.kept hunwritten (hhandles r hr) (hform r hr) (hsent _ he)
  obtain ⟨found, written, hget, hwrite⟩ := CentralSession.sync_begins hform hbackoff hsteps
    fun http reply he => hclear.unignored who http reply hsync (hsent _ he)
  -- Nothing is written between the question whether there is a record and the write that follows
  -- from the answer, so this write is taken after all.
  have hfirst : firstWrite (d.record hostId) found ∈ ContainerRequest.ofSync (d.record hostId) := by
    rw [ContainerRequest.mem_ofSync]
    exact .inr (.inr (firstWrite_cases _ _))
  obtain ⟨t₁, response₁, _, rfl, hasked, hsame₁⟩ := hserved _ (by simp) found hget
  obtain ⟨t₂, response₂, _, rfl, hwritten, hsame₂⟩ := hserved _ hfirst written hwrite
  have hsame : t₂.records.contains (d.record hostId).id =
      t₁.records.contains (d.record hostId).id := by
    rw [KeyMap.contains, KeyMap.contains, hid, hsame₁, hsame₂]
  have hsuccess : response₂.isSuccess = true := hasked.firstWrite_taken hwritten hsame
  refine hunwritten _ (hsent _ hwrite) ⟨who, d, hsync, hfound, rfl, hsuccess, ?_⟩
  rcases firstWrite_cases (d.record hostId) (some response₁) with heq | heq
  · rw [← heq]
    exact .inl (hform _ hfirst)
  · rw [← heq]
    exact .inr (hform _ hfirst)

/-- A sync that writes has looked at the container before. -/
theorem looked_before
    (h : Interleaving (scene srv) (fun who => fine session ((jobs who).work hostId)) s hs left s')
    {writer : ι} (hsync : jobs writer = .sync id) {record : ContainerRecord}
    {before after : List (Happening ι AgentStep.Reply SiteMove)}
    {x : Happening ι AgentStep.Reply SiteMove} (hsplit : hs = before ++ x :: after)
    (hwrites : Writes session.client writer record x) :
    ∃ d, .asked writer (inspected id d) ∈ before := by
  have hown := h.own writer
  rw [hsync, hsplit, ownHistory_append] at hown
  cases x with
  | moved m => exact hwrites.elim
  | asked who e =>
      obtain ⟨q, reply⟩ := e
      cases q with
      | act a => exact hwrites.elim
      | exchange step =>
          have hwho : who = writer := by
            cases step with
            | send http =>
                cases reply with
                | none => exact hwrites.elim
                | some response => exact hwrites.1
            | _ => exact hwrites.elim
          rw [ownHistory_asked, if_pos hwho] at hown
          obtain ⟨d, hd⟩ := inspected_before hown
          exact ⟨d, mem_ownHistory.1 hd⟩

/-- Some jobs sync a container that is there and not ignored, whatever else goes on. When they have
ended, the record of the container is the one that the last write of a sync of it has stored. This
is what the call that wrote it found when it looked at the container, once and before it wrote. -/
theorem last_write_stands
    (h : Interleaving (scene srv) (fun who => fine session ((jobs who).work hostId)) s hs left s')
    (hcovers : Covers handles hostId jobs hs) (hclear : Unhindered id jobs hs)
    (hbackoff : session.conflictBackoff.nanos ≤ Duration.longest.nanos)
    (hsome : ∃ who, jobs who = .sync id)
    (hended : ∀ who, jobs who = .sync id → ∃ result, left who = .done result) :
    ∃ writer d before x after, jobs writer = .sync id ∧ hs = before ++ x :: after ∧
      .asked writer (inspected id d) ∈ before ∧ Writes session.client writer (d.record hostId) x ∧
      (∀ y ∈ after, ¬ WritesFound session.client hostId jobs hs id y) ∧
      s'.central.records.get? id = some (d.record hostId) ∧
      ∀ d', LastInspected id hs writer d' → d' = d := by
  obtain ⟨who, hsync⟩ := hsome
  obtain ⟨result, hresult⟩ := hended who hsync
  obtain ⟨before, x, after, mid, mid', hsplit, hstep, hafter, hwrites, hlast⟩ :=
    h.trail.last (some_write_taken h hcovers hclear hbackoff hsync hresult)
  have hmem : ∀ y ∈ x :: after, y ∈ hs := fun y hy => hsplit ▸ List.mem_append_right _ hy
  rcases stored_step h hcovers hclear.kept (hmem x List.mem_cons_self) hstep with
    ⟨writer, d, hsync, hfound, hwrites, hget⟩ | ⟨hnot, -⟩
  · have hbefore := looked_before h hsync hsplit hwrites
    have hstays := unwritten_stays h hcovers hclear.kept
      (fun y hy => ⟨hmem y (List.mem_cons_of_mem _ hy), hlast y hy⟩) hafter
    have hown := h.own writer
    rw [hsync] at hown
    have hsame : ∀ d', .asked writer (inspected id d') ∈ hs → d' = d := fun d' hmem' =>
      inspected_unique hown (mem_ownHistory.2 hmem') (mem_ownHistory.2 hfound)
    obtain ⟨d', hd'⟩ := hbefore
    obtain rfl := hsame d' (hsplit ▸ List.mem_append_left _ hd')
    exact ⟨writer, d', before, x, after, hsync, hsplit, hd', hwrites, hlast, hstays.trans hget,
      fun d'' hlooked => hsame d'' hlooked.mem⟩
  · exact absurd hwrites hnot

/-! ## A look that is lost

Two syncs look at a container, which stops in between. The second one goes on first and creates the
record. The first one then finds the record and updates it with what it had seen. -/

/-- The container does not run any more. -/
def webStopped : ContainerDetail := { web with state := .none }

/-- All that is asked of the server. -/
def racingRequests : List ContainerRequest :=
  ContainerRequest.ofSync (web.record "h1") ++
    [.update (webStopped.record "h1"), .create (webStopped.record "h1")]

def racingServer : CentralServer plainSession.client (· ∈ racingRequests) :=
  .ofTable plainSession.client racingRequests noLists (fun _ => "[]")
    (by decide +kernel)
    (by decide +kernel)
    noLists_closed
    noLists_listed

/-- The sync asks whether the container is ignored, and is told that it is not. -/
def saidUnignored (who : Bool) : List (Happening Bool AgentStep.Reply SiteMove) :=
  [.asked who ⟨.exchange (.isKnown "x"), false⟩,
    .asked who ⟨.exchange (.send ⟨.head, centralUrl ["containers", "x", "ignored"], [], none⟩),
      some ⟨404, ""⟩⟩,
    .asked who ⟨.exchange (.remember "x"), ()⟩]

/-- The record of what was found last is created. -/
def webStoppedCreated : Asked AgentStep.Reply :=
  ⟨.exchange (.send ⟨.post, centralUrl ["containers"], [],
    some (webStopped.record "h1").toJson⟩), some ⟨201, ""⟩⟩

/-- The record is updated with what was found first. -/
def webUpdated : Asked AgentStep.Reply :=
  ⟨.exchange (.send ⟨.put, centralUrl ["containers", "x"], [],
    some (web.record "h1").toJson⟩), some ⟨200, ""⟩⟩

/-- The sync that looked at the container last. -/
def racingLater : List (Happening Bool AgentStep.Reply SiteMove) :=
  saidUnignored false ++
    [.asked false ⟨.exchange (.send ⟨.get, centralUrl ["containers", "x"], [], none⟩),
        some ⟨404, ""⟩⟩,
      .asked false webStoppedCreated,
      .asked false ⟨.act (.notice (.series .synced)), ()⟩]

/-- The sync that looked at it first, and writes last. -/
def racingEarlier : List (Happening Bool AgentStep.Reply SiteMove) :=
  saidUnignored true ++
    [.asked true ⟨.exchange (.send ⟨.get, centralUrl ["containers", "x"], [], none⟩),
        some ⟨200, ""⟩⟩,
      .asked true webUpdated,
      .asked true ⟨.act (.notice (.series .synced)), ()⟩]

def racing : List (Happening Bool AgentStep.Reply SiteMove) :=
  [.asked true (inspected "x" web), .moved (.fleet (.change webStopped))] ++
    .asked false (inspected "x" webStopped) :: (racingLater ++ racingEarlier)

def racingJobs (_ : Bool) : Job := .sync "x"

def racingStart : Site racingServer := ⟨.single web, ⟨⟨∅, [], []⟩, nil_mem_noLists⟩⟩

/-- The container has stopped. -/
def racingChanged : Site racingServer :=
  ⟨(Fleet.empty []).add webStopped, ⟨⟨∅, [], []⟩, nil_mem_noLists⟩⟩

/-- There is a record. -/
def racingWritten (record : ContainerRecord) : Site racingServer :=
  ⟨(Fleet.empty []).add webStopped, ⟨⟨(∅ : KeyMap ContainerRecord).insert "x" record, [], []⟩,
    nil_mem_noLists⟩⟩

theorem racing_trail :
    Trail (scene racingServer) racingStart racing (racingWritten (web.record "h1")) := by
  have hchange : scene racingServer (ι := Bool) racingStart (.moved (.fleet (.change webStopped)))
      racingChanged := ⟨⟨⟨web, rfl⟩, rfl, rfl⟩, rfl⟩
  have hcreate : scene racingServer racingChanged (.asked false webStoppedCreated)
      (racingWritten (webStopped.record "h1")) := ⟨rfl, rfl, rfl⟩
  have hupdate : scene racingServer (racingWritten (webStopped.record "h1"))
      (.asked true webUpdated) (racingWritten (web.record "h1")) := ⟨rfl, rfl, rfl⟩
  have hlater : Trail (scene racingServer) racingChanged racingLater
      (racingWritten (webStopped.record "h1")) :=
    .cons rfl (.cons ⟨rfl, rfl, rfl⟩ (.cons rfl (.cons ⟨rfl, rfl, rfl⟩ (.cons hcreate
      (.cons rfl (.nil _))))))
  have hearlier : Trail (scene racingServer) (racingWritten (webStopped.record "h1"))
      racingEarlier (racingWritten (web.record "h1")) :=
    .cons rfl (.cons ⟨rfl, rfl, rfl⟩ (.cons rfl (.cons ⟨rfl, rfl, rfl⟩ (.cons hupdate
      (.cons rfl (.nil _))))))
  exact .cons ⟨rfl, rfl⟩ (.cons hchange (.cons ⟨rfl, rfl⟩
    ((Trail.append_iff _ _).2 ⟨_, hlater, hearlier⟩)))

theorem racing_interleaving :
    Interleaving (scene racingServer)
      (fun who => fine plainSession ((racingJobs who).work "h1")) racingStart racing
      (fun _ => .done (.ok ())) (racingWritten (web.record "h1")) where
  trail := racing_trail
  own := by
    intro who
    show (fine plainSession ((Job.sync "x").work "h1")).Reaches _ _
    rw [fine_syncJob]
    cases who with
    | true =>
        refine .ask _ _ _ ?_
        show Program.Reaches (Program.bind (fine plainSession (afterInspect "h1" (.ok web))) _) _ _
        rw [afterInspect, Work.fine_call, Work.stepwise]
        exact .ask _ _ _ (.ask _ _ _ (.ask _ _ _ (.ask _ _ _ (.ask _ _ _ (.ask _ _ _
          (.here _))))))
    | false =>
        refine .ask _ _ _ ?_
        show Program.Reaches
          (Program.bind (fine plainSession (afterInspect "h1" (.ok webStopped))) _) _ _
        rw [afterInspect, Work.fine_call, Work.stepwise]
        exact .ask _ _ _ (.ask _ _ _ (.ask _ _ _ (.ask _ _ _ (.ask _ _ _ (.ask _ _ _
          (.here _))))))

theorem racing_unhindered : Unhindered "x" racingJobs racing where
  found := by
    intro who reply hmem
    simp [racing, racingLater, racingEarlier, saidUnignored, webStoppedCreated, webUpdated,
      inspected] at hmem
    rcases hmem with ⟨-, rfl⟩ | ⟨-, rfl⟩
    · exact ⟨web, rfl⟩
    · exact ⟨webStopped, rfl⟩
  unignored := by
    intro who http reply _ hmem hhead
    simp [racing, racingLater, racingEarlier, saidUnignored, webStoppedCreated, webUpdated,
      inspected] at hmem
    rcases hmem with ⟨-, rfl, rfl⟩ | ⟨-, rfl, rfl⟩ | ⟨-, rfl, rfl⟩ | ⟨-, rfl, rfl⟩ | ⟨-, rfl, rfl⟩ |
      ⟨-, rfl, rfl⟩ <;> first | rfl | cases hhead
  kept := by
    intro who
    simp [racingJobs]

theorem racing_covers : Covers (· ∈ racingRequests) "h1" racingJobs racing where
  sync := by
    intro who id d hjob hfound r hr
    have hd : d = web ∨ d = webStopped := by
      simp [racing, racingLater, racingEarlier, saidUnignored, webStoppedCreated, webUpdated,
      inspected] at hfound
      exact hfound.imp (·.2.2) (·.2.2)
    rw [ContainerRequest.mem_ofSync] at hr
    rcases hd with rfl | rfl <;> rcases hr with rfl | rfl | rfl | rfl <;> decide
  forget := by
    intro who id hjob
    cases hjob

theorem racing_lastInspected : LastInspected "x" racing false webStopped := by
  refine ⟨_, _, rfl, ?_⟩
  intro other reply hmem
  simp [racingLater, racingEarlier, saidUnignored, webStoppedCreated, webUpdated] at hmem

/-- Two syncs of a container that is there and not ignored have ended well, and no request has
failed. Still the record is not the one of what was found last. -/
theorem later_look_lost :
    ∃ hs left s', Interleaving (scene racingServer)
        (fun who => fine plainSession ((racingJobs who).work "h1")) racingStart hs left s' ∧
      Unhindered "x" racingJobs hs ∧ (∀ who, left who = .done (.ok ())) ∧
      ∃ who d, LastInspected "x" hs who d ∧
        s'.central.records.get? "x" ≠ some (d.record "h1") :=
  ⟨racing, _, _, racing_interleaving, racing_unhindered, fun _ => rfl, false, webStopped,
    racing_lastInspected, by decide⟩

/-- The record in the end, seen from the write that stored it. -/
theorem last_write_stands_racing :
    ∃ writer d before x after, racingJobs writer = .sync "x" ∧ racing = before ++ x :: after ∧
      .asked writer (inspected "x" d) ∈ before ∧
      Writes plainSession.client writer (d.record "h1") x ∧
      (∀ y ∈ after, ¬ WritesFound plainSession.client "h1" racingJobs racing "x" y) ∧
      (racingWritten (web.record "h1")).central.records.get? "x" = some (d.record "h1") ∧
      ∀ d', LastInspected "x" racing writer d' → d' = d :=
  last_write_stands racing_interleaving racing_covers racing_unhindered (by decide +kernel)
    ⟨true, rfl⟩ fun _ _ => ⟨_, rfl⟩

end Reconcile

end HostAgent
