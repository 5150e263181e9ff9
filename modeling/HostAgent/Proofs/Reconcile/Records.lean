import HostAgent.Proofs.Central.Steps
import HostAgent.Proofs.Reconcile.Fleet

/-!
# Records of containers that are gone

The loops of the agent sync and forget containers at the same time, without any
order among them, while containers come and go. Every call is taken apart into
its single steps, and all requests reach one server that keeps its contract.

Syncing looks at the container first and writes its record last. A container may
be removed in between, and forgotten, and then the record is written after it
was deleted. Nothing deletes it again.

## Main results

* `sync_history`, `Job.request`: what the requests of a job are about.
* `record_step`: which single steps change whether there is a record.
* `record_remains_iff`: when the record of a container that is gone and forgotten remains.
* `record_outlives_container`: a course of events in which it does.
-/

namespace HostAgent.Reconcile

open Work (fine)

/-! ## Jobs and their surroundings -/

/-- What a loop does with a container. -/
inductive Job
  | sync (id : String)
  | forget (id : String)
deriving DecidableEq, Repr

def Job.work (hostId : String) : Job → Work (Except SyncError Unit)
  | .sync id => do return (← Reconcile.syncOne hostId id).map fun _ => ()
  | .forget id => do return (← Reconcile.forget id).mapError .central

/-- A runtime and a central server. -/
structure Site {client : CentralClient} {handles : ContainerRequest → Prop}
    (srv : CentralServer client handles) where
  fleet : Fleet
  server : srv.State

inductive SiteMove
  | fleet (m : FleetMove)
  /-- Something else about the server changes, such as its ignore list, but no record. -/
  | elsewhere

variable {ι : Type} {session : CentralSession} {handles : ContainerRequest → Prop}
  {srv : CentralServer session.client handles}

/-- What the central server holds. -/
def Site.central (s : Site srv) : CentralState := srv.view s.server

/-- Containers come and go by themselves, every request is responded to, and what the runtime says
is true. Nothing is known about the replies to other steps. -/
def scene (srv : CentralServer session.client handles) :
    Scene (Site srv) ι AgentStep.Reply SiteMove
  | s, .asked _ ⟨.act (.engine call), reply⟩, s' => s' = s ∧ s.fleet.Tells call reply
  | s, .asked _ ⟨.exchange (.send http), reply⟩, s' =>
    s'.fleet = s.fleet ∧ reply = some (srv.respond s.server http).1 ∧
      s'.server = (srv.respond s.server http).2
  | s, .asked _ _, s' => s' = s
  | s, .moved (.fleet m), s' => s.fleet.Moves s'.fleet m ∧ s'.server = s.server
  | s, .moved .elsewhere, s' => s'.fleet = s.fleet ∧ s'.central.records = s.central.records

/-- The step that looks at a container, and what it found. -/
def inspected (id : String) (d : ContainerDetail) : Asked AgentStep.Reply :=
  ⟨.act (.engine (.inspect id)), .ok d⟩

/-- The server keeps its contract for what the jobs may ask it. -/
structure Covers (handles : ContainerRequest → Prop) (hostId : String) (jobs : ι → Job)
    (hs : List (Happening ι AgentStep.Reply SiteMove)) : Prop where
  sync : ∀ who id d, jobs who = .sync id → .asked who (inspected id d) ∈ hs →
    ∀ r ∈ ContainerRequest.ofSync (d.record hostId), handles r
  forget : ∀ who id, jobs who = .forget id → handles (.delete id) ∧ handles (.unignore id)

/-! ## The requests of a job -/

theorem fine_syncJob (session : CentralSession) (hostId id : String) :
    fine session ((Job.sync id).work hostId) =
      .ask (.act (.engine (.inspect id))) fun reply =>
        (fine session (afterInspect hostId reply)).bind fun r => .done (r.map fun _ => ()) := by
  show fine session (syncOne hostId id >>= fun r => .done (r.map fun _ => ())) = _
  rw [Work.fine_bind, fine_syncOne]
  rfl

/-- A sync inspects its container, and then sends requests about what it found, if anything. -/
theorem sync_history {hostId id : String} {past : List (Asked AgentStep.Reply)}
    {rest : Program AgentStep.Reply (Except SyncError Unit)}
    (h : (fine session ((Job.sync id).work hostId)).Reaches past rest) :
    past = [] ∨ ∃ reply more, past = ⟨.act (.engine (.inspect id)), reply⟩ :: more ∧
      (∀ e, reply = .error e → more = []) ∧
      ∀ d, reply = .ok d → ∀ e ∈ more,
        AgentStep.Sends session.client (· ∈ ContainerRequest.ofSync (d.record hostId))
          e.question := by
  rw [fine_syncJob] at h
  cases h with
  | here => exact .inl rfl
  | ask _ _ reply hmore =>
      refine .inr ⟨reply, _, rfl, ?_, ?_⟩
      · rintro e rfl
        cases hmore
        rfl
      · rintro d rfl
        have hsends : (fine session (afterInspect hostId (.ok d))).Asking
            (AgentStep.Sends session.client (· ∈ ContainerRequest.ofSync (d.record hostId))) :=
          afterInspect_sends hostId d fun r hr => hr
        exact ((hsends.bind fun r => .done _).of_reaches hmore).1

theorem forget_history {hostId id : String} {past : List (Asked AgentStep.Reply)}
    {rest : Program AgentStep.Reply (Except SyncError Unit)}
    (h : (fine session ((Job.forget id).work hostId)).Reaches past rest) :
    ∀ e ∈ past, AgentStep.Sends session.client (fun r => r = .delete id ∨ r = .unignore id)
      e.question := by
  have hsends : (fine session ((Job.forget id).work hostId)).Asking
      (AgentStep.Sends session.client fun r => r = .delete id ∨ r = .unignore id) := by
    show (fine session (forget id >>= fun r => .done (r.mapError SyncError.central))).Asking _
    rw [Work.fine_bind]
    exact (forget_sends id (.inl rfl) (.inr rfl)).bind fun r => .done _
  exact (hsends.of_reaches h).1

/-- What a job may ask the server: a sync about what it found, and a forgetting to delete. -/
def Job.MayAsk (hostId : String) (past : List (Asked AgentStep.Reply)) :
    Job → ContainerRequest → Prop
  | .sync id, r => ∃ d, inspected id d ∈ past ∧ r ∈ ContainerRequest.ofSync (d.record hostId)
  | .forget id, r => r = .delete id ∨ r = .unignore id

theorem Job.request {hostId : String} {job : Job} {past : List (Asked AgentStep.Reply)}
    {rest : Program AgentStep.Reply (Except SyncError Unit)}
    (h : (fine session (job.work hostId)).Reaches past rest) {http : HttpRequest}
    {reply : Option HttpResponse} (he : ⟨.exchange (.send http), reply⟩ ∈ past) :
    ∃ r, job.MayAsk hostId past r ∧ r.http? session.client = some http := by
  cases job with
  | forget id => exact forget_history h _ he
  | sync id =>
      rcases sync_history h with rfl | ⟨found, more, rfl, hnothing, hsends⟩
      · cases he
      · have hmore : (⟨.exchange (.send http), reply⟩ : Asked AgentStep.Reply) ∈ more := by
          rcases List.mem_cons.1 he with heq | hmem
          · cases heq
          · exact hmem
        cases found with
        | error e =>
            rw [hnothing e rfl] at hmore
            cases hmore
        | ok d =>
            obtain ⟨r, hr, hhttp⟩ := hsends d rfl _ hmore
            exact ⟨r, ⟨d, List.mem_cons_self, hr⟩, hhttp⟩

/-! ## Single steps -/

theorem scene_gone {s s' : Site srv} {x : Happening ι AgentStep.Reply SiteMove}
    (h : scene srv s x s') {id : String} (hgone : s.fleet.Gone id) : s'.fleet.Gone id := by
  cases x with
  | moved m =>
      cases m with
      | fleet m => exact h.1.gone hgone
      | elsewhere =>
          rw [h.1]
          exact hgone
  | asked who e =>
      obtain ⟨q, reply⟩ := e
      cases q with
      | act a =>
          cases a with
          | engine call =>
              rw [h.1]
              exact hgone
          | _ =>
              rw [show s' = s from h]
              exact hgone
      | exchange step =>
          cases step with
          | send http =>
              rw [h.1]
              exact hgone
          | _ =>
              rw [show s' = s from h]
              exact hgone

/-- The server keeps its contract for a request that it handles. -/
theorem scene_serves {t t' : Site srv} {r : ContainerRequest} (hr : handles r)
    {http : HttpRequest} (hhttp : r.http? session.client = some http) {who : ι}
    {reply : Option HttpResponse}
    (hstep : scene srv t (.asked who ⟨.exchange (.send http), reply⟩) t') :
    ∃ response, reply = some response ∧ Serves t.central response t'.central r := by
  obtain ⟨-, rfl, hserver⟩ := hstep
  obtain ⟨http', hhttp', hall⟩ := srv.serves r hr
  obtain rfl : http' = http := Option.some.inj (hhttp'.symm.trans hhttp)
  refine ⟨_, rfl, ?_⟩
  rw [Site.central, Site.central, hserver]
  exact hall t.server

/-- What inspecting found is about the container, and the container was there. -/
theorem inspected_true {s s' : Site srv} {hs : List (Happening ι AgentStep.Reply SiteMove)}
    (h : Trail (scene srv) s hs s') {who : ι} {id : String} {d : ContainerDetail}
    (hmem : .asked who (inspected id d) ∈ hs) : d.id = id ∧ ¬ s.fleet.Gone id := by
  obtain ⟨first, second, rfl⟩ := List.append_of_mem hmem
  obtain ⟨mid, hfirst, hrest⟩ := (Trail.append_iff _ _).1 h
  obtain ⟨mid', hstep, _⟩ := (Trail.cons_iff _ _).1 hrest
  have hthere : mid.fleet.containers.get? id = some d := hstep.2
  refine ⟨mid.fleet.keyed id d hthere, ?_⟩
  intro hgone
  have hmid : mid.fleet.Gone id :=
    hfirst.invariant (P := fun s => s.fleet.Gone id) (fun _ _ _ _ hg hx => scene_gone hx hg) hgone
  exact hmid.not_present ⟨d, hthere⟩

/-- A request to delete the record of a container. -/
def Deletes (client : CentralClient) (id : String) :
    Happening ι AgentStep.Reply SiteMove → Prop
  | .asked _ ⟨.exchange (.send http), _⟩ =>
    (ContainerRequest.delete id).http? client = some http
  | _ => False

/-- A record is written, and the server takes it. -/
def Writes (client : CentralClient) (who : ι) (record : ContainerRecord) :
    Happening ι AgentStep.Reply SiteMove → Prop
  | .asked who' ⟨.exchange (.send http), some response⟩ =>
    who' = who ∧ response.isSuccess = true ∧
      ((ContainerRequest.update record).http? client = some http ∨
        (ContainerRequest.create record).http? client = some http)
  | _ => False

variable [DecidableEq ι] {hostId : String} {jobs : ι → Job} {s s' : Site srv}
  {hs : List (Happening ι AgentStep.Reply SiteMove)}
  {left : ι → Program AgentStep.Reply (Except SyncError Unit)}

/-- A sync of the container writes what it found. -/
def WritesFound (client : CentralClient) (hostId : String) (jobs : ι → Job)
    (hs : List (Happening ι AgentStep.Reply SiteMove)) (id : String)
    (x : Happening ι AgentStep.Reply SiteMove) : Prop :=
  ∃ who d, jobs who = .sync id ∧ .asked who (inspected id d) ∈ hs ∧
    Writes client who (d.record hostId) x

theorem may_handles (hcovers : Covers handles hostId jobs hs) {who : ι} {r : ContainerRequest}
    (hmay : (jobs who).MayAsk hostId (ownHistory who hs) r) : handles r := by
  cases hjob : jobs who with
  | sync id =>
      rw [hjob] at hmay
      obtain ⟨d, hinspected, hr⟩ := hmay
      exact hcovers.sync who id d hjob (mem_ownHistory.1 hinspected) r hr
  | forget id =>
      rw [hjob] at hmay
      rcases hmay with rfl | rfl
      · exact (hcovers.forget who id hjob).1
      · exact (hcovers.forget who id hjob).2

section Steps

variable (h : Interleaving (scene srv) (fun who => fine session ((jobs who).work hostId)) s hs left
  s')

include h

/-- A request of a job stores a record of a container just when a sync of that container writes
what it found. -/
theorem writesFound_iff {who : ι} {r : ContainerRequest} {http : HttpRequest}
    {response : HttpResponse} {id : String}
    (hmay : (jobs who).MayAsk hostId (ownHistory who hs) r)
    (hhttp : r.http? session.client = some http) :
    WritesFound session.client hostId jobs hs id
        (.asked who ⟨.exchange (.send http), some response⟩) ↔
      response.isSuccess = true ∧ ∃ record, record.id = id ∧
        (r = .update record ∨ r = .create record) := by
  have hmethod := ContainerRequest.http?_method hhttp
  constructor
  · rintro ⟨_, d', hsync, _, rfl, hsuccess, hform⟩
    rw [hsync] at hmay
    obtain ⟨d, hinspected, hr⟩ := hmay
    have hid : d.id = id := (inspected_true h.trail (mem_ownHistory.1 hinspected)).1
    refine ⟨hsuccess, d.record hostId, hid, ?_⟩
    have hwrite : r.method = .put ∨ r.method = .post := by
      rw [← hmethod]
      exact hform.imp ContainerRequest.http?_method ContainerRequest.http?_method
    rw [ContainerRequest.mem_ofSync] at hr
    -- Only the last two of the four requests of a sync write.
    rcases hr with rfl | rfl | rfl | rfl
    · rcases hwrite with hwrite | hwrite <;> cases hwrite
    · rcases hwrite with hwrite | hwrite <;> cases hwrite
    · exact .inl rfl
    · exact .inr rfl
  · rintro ⟨hsuccess, record, hrecord, hr'⟩
    cases hjob : jobs who with
    | forget id' =>
        rw [hjob] at hmay
        rcases hmay with rfl | rfl <;> rcases hr' with hr' | hr' <;> cases hr'
    | sync id' =>
        rw [hjob] at hmay
        obtain ⟨d, hinspected, hr⟩ := hmay
        have hfound : .asked who (inspected id' d) ∈ hs := mem_ownHistory.1 hinspected
        obtain rfl : record = d.record hostId := by
          rcases hr' with rfl | rfl <;> simpa [ContainerRequest.ofSync] using hr
        obtain rfl : id' = id := (inspected_true h.trail hfound).1.symm.trans hrecord
        refine ⟨who, d, hjob, hfound, rfl, hsuccess, ?_⟩
        rcases hr' with rfl | rfl
        · exact .inl hhttp
        · exact .inr hhttp

theorem request_step (hcovers : Covers handles hostId jobs hs) {id : String}
    (hdelete : handles (.delete id)) {who : ι} {http : HttpRequest} {reply : Option HttpResponse}
    (hx : .asked who ⟨.exchange (.send http), reply⟩ ∈ hs) {t t' : Site srv}
    (hstep : scene srv t (.asked who ⟨.exchange (.send http), reply⟩) t') :
    t'.central.records.contains id = true ↔
      WritesFound session.client hostId jobs hs id (.asked who ⟨.exchange (.send http), reply⟩) ∨
        (t.central.records.contains id = true ∧
          ¬ (ContainerRequest.delete id).http? session.client = some http) := by
  obtain ⟨r, hmay, hhttp⟩ := Job.request (h.own who) (mem_ownHistory.2 hx)
  obtain ⟨response, rfl, hserves⟩ := scene_serves (may_handles hcovers hmay) hhttp hstep
  rw [writesFound_iff h hmay hhttp]
  by_cases hdeletes : (ContainerRequest.delete id).http? session.client = some http
  · have hmethod : r.method = .delete := by
      rw [← ContainerRequest.http?_method hhttp]
      exact ContainerRequest.http?_method hdeletes
    obtain ⟨_, -, hdeleted⟩ := scene_serves hdelete hdeletes hstep
    rw [hdeleted.1, CentralState.drop, KeyMap.contains_erase]
    simp only [decide_true, Bool.not_true, Bool.false_and, Bool.false_eq_true, false_iff, not_or,
      not_and, Classical.not_not]
    refine ⟨?_, fun _ => hdeletes⟩
    rintro - ⟨record, -, rfl | rfl⟩ <;> cases hmethod
  · have hne : r ≠ .delete id := by
      rintro rfl
      exact hdeletes hhttp
    rw [hserves.contains_iff hne]
    simp only [hdeletes, not_false_eq_true, and_true]

/-- A step changes whether a container has a record only by deleting it or by writing what a sync
of the container found. -/
theorem record_step (hcovers : Covers handles hostId jobs hs) {id : String}
    (hdelete : handles (.delete id)) {x : Happening ι AgentStep.Reply SiteMove} (hx : x ∈ hs)
    {t t' : Site srv} (hstep : scene srv t x t') :
    t'.central.records.contains id = true ↔
      WritesFound session.client hostId jobs hs id x ∨
        (t.central.records.contains id = true ∧ ¬ Deletes session.client id x) := by
  cases x with
  | moved m =>
      have hsame : t'.central.records = t.central.records := by
        cases m with
        | fleet m => rw [Site.central, hstep.2, Site.central]
        | elsewhere => exact hstep.2
      simp [hsame, WritesFound, Writes, Deletes]
  | asked who e =>
      obtain ⟨q, reply⟩ := e
      cases q with
      | exchange step =>
          cases step with
          | send http => exact request_step h hcovers hdelete hx hstep
          | _ => simp [show t' = t from hstep, WritesFound, Writes, Deletes]
      | act a =>
          have hsame : t' = t := by
            cases a with
            | engine call => exact hstep.1
            | _ => exact hstep
          simp [hsame, WritesFound, Writes, Deletes]

end Steps

/-! ## When the record of a container that is gone remains -/

/-- A job that forgets a container and has ended has deleted its record. -/
theorem forget_deleted {id : String} {http : HttpRequest}
    (hhttp : (ContainerRequest.delete id).http? session.client = some http)
    {past : List (Asked AgentStep.Reply)} {result : Except SyncError Unit}
    (h : (fine session ((Job.forget id).work hostId)).Yields past result) :
    ∃ reply, ⟨.exchange (.send http), reply⟩ ∈ past := by
  obtain ⟨k, hk⟩ := forget_deletes hhttp
  have hwork : fine session ((Job.forget id).work hostId) =
      (fine session (forget id)).bind fun r =>
        fine session (.done (r.mapError SyncError.central)) :=
    Work.fine_bind _ _ _
  rw [hwork, hk] at h
  obtain ⟨reply, more, rfl, -⟩ := (Program.yields_ask _ _ _ _).1 h
  exact ⟨reply, List.mem_cons_self⟩

/-- A container has vanished, and some job that forgets it has begun after that and ended. Then the
central server holds a record of the container if and only if some sync had looked at it before it
vanished, and its write was taken after the last deletion of the record. -/
theorem record_remains_iff
    (h : Interleaving (scene srv) (fun who => fine session ((jobs who).work hostId)) s hs left s')
    (hcovers : Covers handles hostId jobs hs) {id : String}
    {before after : List (Happening ι AgentStep.Reply SiteMove)}
    (hvanish : hs = before ++ .moved (.fleet (.vanish id)) :: after)
    {who : ι} (hforget : jobs who = .forget id) (hlate : ownHistory who before = [])
    (hended : ∃ result, left who = .done result) :
    s'.central.records.contains id = true ↔
      ∃ writer d mid x tail, jobs writer = .sync id ∧ .asked writer (inspected id d) ∈ before ∧
        after = mid ++ x :: tail ∧ Writes session.client writer (d.record hostId) x ∧
        ∀ y ∈ tail, ¬ Deletes session.client id y := by
  have hdelete : handles (.delete id) := (hcovers.forget who id hforget).1
  -- The job that forgets has deleted the record, and it has done so after the container vanished.
  have hdeleted : ∃ y ∈ after, Deletes session.client id y := by
    obtain ⟨http, hhttp, -⟩ := srv.serves _ hdelete
    obtain ⟨result, hresult⟩ := hended
    have hown := h.own who
    rw [hforget, hresult, hvanish, ownHistory_append, hlate, List.nil_append] at hown
    obtain ⟨reply, hreply⟩ := forget_deleted hhttp hown
    have hmem : .asked who ⟨.exchange (.send http), reply⟩ ∈ after := by
      rcases List.mem_cons.1 (mem_ownHistory.1 hreply) with heq | hmem
      · cases heq
      · exact hmem
    exact ⟨_, hmem, hhttp⟩
  have htrail := h.trail
  rw [hvanish] at htrail
  obtain ⟨mid, -, hrest⟩ := (Trail.append_iff _ _).1 htrail
  obtain ⟨gone, hstep, hafter⟩ := (Trail.cons_iff _ _).1 hrest
  have hgone : gone.fleet.Gone id := hstep.1.gone_of_vanish
  rw [hafter.switch (P := fun s => s.central.records.contains id = true)
    fun t x t' hx hstep => record_step h hcovers hdelete
      (hvanish ▸ List.mem_append_right _ (List.mem_cons_of_mem _ hx)) hstep]
  constructor
  · rintro (⟨first, x, tail, hsplit, ⟨writer, d, hsync, hfound, hwrites⟩, hkept⟩ | ⟨-, hkept⟩)
    · refine ⟨writer, d, first, x, tail, hsync, ?_, hsplit, hwrites, hkept⟩
      rw [hvanish] at hfound
      rcases List.mem_append.1 hfound with hfound | hfound
      · exact hfound
      · rcases List.mem_cons.1 hfound with heq | hfound
        · cases heq
        · exact absurd hgone (inspected_true hafter hfound).2
    · obtain ⟨y, hy, hdeletes⟩ := hdeleted
      exact absurd hdeletes (hkept y hy)
  · rintro ⟨writer, d, first, x, tail, hsync, hfound, hsplit, hwrites, hkept⟩
    refine .inl ⟨first, x, tail, hsplit, ⟨writer, d, hsync, ?_, hwrites⟩, hkept⟩
    rw [hvanish]
    exact List.mem_append_left _ hfound

/-! ## A write that comes too late

A container without a record is synced. When both questions about it are answered, it vanishes and
is forgotten, and only then the record is written. -/

/-- All that is asked of the server. -/
def webRequests : List ContainerRequest :=
  [.delete "x", .unignore "x"] ++ ContainerRequest.ofSync (web.record "h1")

def webServer : CentralServer plainSession.client (· ∈ webRequests) :=
  .ofTable plainSession.client webRequests [[]] (fun _ => "[]")
    (by decide +kernel)
    (by decide +kernel)
    (by simp)
    (by
      intro ids hids
      obtain rfl : ids = [] := by simpa using hids
      exact ⟨[], rfl, .nil⟩)

/-- The sync, up to its last question. -/
def lateWriteBefore : List (Happening Bool AgentStep.Reply SiteMove) :=
  [.asked true (inspected "x" web),
    .asked true ⟨.exchange (.isKnown "x"), false⟩,
    .asked true ⟨.exchange (.send ⟨.head, centralUrl ["containers", "x", "ignored"], [], none⟩),
      some ⟨404, ""⟩⟩,
    .asked true ⟨.exchange (.remember "x"), ()⟩,
    .asked true ⟨.exchange (.send ⟨.get, centralUrl ["containers", "x"], [], none⟩),
      some ⟨404, ""⟩⟩]

/-- The record of what was found is created. -/
def webCreated : Asked AgentStep.Reply :=
  ⟨.exchange (.send ⟨.post, centralUrl ["containers"], [], some (web.record "h1").toJson⟩),
    some ⟨201, ""⟩⟩

/-- The container is forgotten, and the sync goes on. -/
def lateWriteAfter : List (Happening Bool AgentStep.Reply SiteMove) :=
  [.asked false ⟨.exchange (.send ⟨.delete, centralUrl ["containers", "x"], [], none⟩),
      some ⟨404, ""⟩⟩,
    .asked false ⟨.exchange (.forget "x"), ()⟩,
    .asked false ⟨.exchange (.send ⟨.delete, centralUrl ["containers", "x", "ignored"], [], none⟩),
      some ⟨204, ""⟩⟩,
    .asked true webCreated,
    .asked true ⟨.act (.notice (.series .synced)), ()⟩]

def lateWrite : List (Happening Bool AgentStep.Reply SiteMove) :=
  lateWriteBefore ++ .moved (.fleet (.vanish "x")) :: lateWriteAfter

def lateWriteJobs : Bool → Job
  | true => .sync "x"
  | false => .forget "x"

def lateWriteStart : Site webServer := ⟨.single web, ⟨⟨∅, [], []⟩, by simp⟩⟩

def lateWriteGone : Site webServer := ⟨.empty ["x"], ⟨⟨∅, [], []⟩, by simp⟩⟩

def lateWriteEnd : Site webServer :=
  ⟨.empty ["x"], ⟨⟨(∅ : KeyMap ContainerRecord).insert "x" (web.record "h1"), [], []⟩, by simp⟩⟩

theorem lateWrite_trail : Trail (scene webServer) lateWriteStart lateWrite lateWriteEnd := by
  have hbefore : Trail (scene webServer) lateWriteStart lateWriteBefore lateWriteStart :=
    .cons ⟨rfl, rfl⟩ (.cons rfl (.cons ⟨rfl, rfl, rfl⟩ (.cons rfl (.cons ⟨rfl, rfl, rfl⟩
      (.nil _)))))
  have hvanish : lateWriteStart.fleet.Moves lateWriteGone.fleet (.vanish "x") :=
    ⟨⟨web, rfl⟩, rfl, rfl⟩
  have hcreate : scene webServer lateWriteGone (.asked true webCreated) lateWriteEnd :=
    ⟨rfl, rfl, rfl⟩
  have hafter : Trail (scene webServer) lateWriteGone lateWriteAfter lateWriteEnd :=
    .cons ⟨rfl, rfl, rfl⟩ (.cons rfl (.cons ⟨rfl, rfl, rfl⟩ (.cons hcreate (.cons rfl (.nil _)))))
  exact (Trail.append_iff _ _).2 ⟨_, hbefore, .cons ⟨hvanish, rfl⟩ hafter⟩

theorem lateWrite_interleaving :
    Interleaving (scene webServer)
      (fun who => fine plainSession ((lateWriteJobs who).work "h1")) lateWriteStart lateWrite
      (fun _ => .done (.ok ())) lateWriteEnd where
  trail := lateWrite_trail
  own := by
    intro who
    cases who with
    | true =>
        show (fine plainSession
          (syncOne "h1" "x" >>= fun r => .done (r.map fun _ => ()))).Reaches _ _
        rw [Work.fine_bind, fine_syncOne]
        refine .ask _ _ _ ?_
        show Program.Reaches (Program.bind (fine plainSession (afterInspect "h1" (.ok web))) _) _ _
        rw [afterInspect, Work.fine_call, Work.stepwise]
        exact .ask _ _ _ (.ask _ _ _ (.ask _ _ _ (.ask _ _ _ (.ask _ _ _ (.ask _ _ _
          (.here _))))))
    | false =>
        show (fine plainSession
          (forget "x" >>= fun r => .done (r.mapError SyncError.central))).Reaches _ _
        rw [Work.fine_bind, fine_forget, Work.stepwise, Work.stepwise]
        exact .ask _ _ _ (.ask _ _ _ (.ask _ _ _ (.here _)))

/-- The container is gone, the job that forgets it has begun after that, and both jobs have ended
well. Still there is a record of it. -/
theorem record_outlives_container :
    ∃ left s', Interleaving (scene webServer)
        (fun who => fine plainSession ((lateWriteJobs who).work "h1")) lateWriteStart
        (lateWriteBefore ++ .moved (.fleet (.vanish "x")) :: lateWriteAfter) left s' ∧
      lateWriteJobs true = .sync "x" ∧ lateWriteJobs false = .forget "x" ∧
      ownHistory false lateWriteBefore = [] ∧ (∀ who, left who = .done (.ok ())) ∧
      s'.fleet.Gone "x" ∧ s'.central.records.contains "x" = true :=
  ⟨_, _, lateWrite_interleaving, rfl, rfl, rfl, fun _ => rfl, ⟨List.mem_cons_self, rfl⟩, rfl⟩

theorem lateWrite_covers : Covers (· ∈ webRequests) "h1" lateWriteJobs lateWrite where
  sync := by
    intro who id d hjob hfound r hr
    have hd : d = web := by
      simp [lateWrite, lateWriteBefore, lateWriteAfter, webCreated, inspected] at hfound
      exact hfound.2.2
    rw [hd] at hr
    exact List.mem_append_right _ hr
  forget := by
    intro who id hjob
    cases who with
    | true => cases hjob
    | false =>
        cases hjob
        exact ⟨by decide, by decide⟩

/-- The write after the deletion, seen from the record that remains. -/
theorem record_remains_lateWrite :
    ∃ writer d mid x tail, lateWriteJobs writer = .sync "x" ∧
      .asked writer (inspected "x" d) ∈ lateWriteBefore ∧ lateWriteAfter = mid ++ x :: tail ∧
      Writes plainSession.client writer (d.record "h1") x ∧
      ∀ y ∈ tail, ¬ Deletes plainSession.client "x" y := by
  have hforget : lateWriteJobs false = .forget "x" := rfl
  have hremains : lateWriteEnd.central.records.contains "x" = true := rfl
  exact (record_remains_iff lateWrite_interleaving lateWrite_covers rfl hforget rfl ⟨_, rfl⟩).1
    hremains

end HostAgent.Reconcile
