import Mathlib.Data.List.Sublists
import HostAgent.Proofs.Reconcile.Calm

/-!
# What a full sync leads to

A full sync while nothing else happens: the containers stay as they are, and the
server keeps its contract. Whatever the server held before, afterwards it has
the record of every container that is there and not ignored, it has all its
other records as they were, and of the ignore entries those of containers that
are there. A full sync finds nothing to do after another.

A loop over the listing carries what has been swept so far: the records of the
containers behind it are right, and nothing else has changed.

## Main results

* `syncEach_brings`: what syncing one container after another makes of the server.
* `purge_brings`: what the purge makes of it.
* `fullSync_converges`: what a full sync makes of it, and that a second one changes nothing.
-/

namespace HostAgent

/-! ## Sweeping -/

/-- What syncing some containers makes of the server: those that are not ignored have their records,
and nothing else has changed. -/
structure Swept (f : Fleet) (hostId : String) (ids : List String) (s s' : CentralState) :
    Prop where
  records : ∀ id, s'.records.get? id =
    if id ∈ ids ∧ id ∉ s.ignored then (f.containers.get? id).map (·.record hostId)
    else s.records.get? id
  ignored : s'.ignored = s.ignored
  tasks : s'.tasks = s.tasks

namespace Swept

variable {f : Fleet} {hostId : String} {ids ids' : List String} {s s' s'' : CentralState}

theorem nil (f : Fleet) (hostId : String) (s : CentralState) : Swept f hostId [] s s where
  records := by simp
  ignored := rfl
  tasks := rfl

theorem append (h : Swept f hostId ids s s') (h' : Swept f hostId ids' s' s'') :
    Swept f hostId (ids ++ ids') s s'' where
  records := by
    intro id
    rw [h'.records, h.records, h.ignored]
    by_cases hignored : id ∈ s.ignored
    · simp [hignored]
    · by_cases hid : id ∈ ids'
      · simp [hignored, hid]
      · simp [hignored, hid]
  ignored := h'.ignored.trans h.ignored
  tasks := h'.tasks.trans h.tasks

/-- A record is all that a sync may change. -/
theorem one {id : String} {d : ContainerDetail} (hd : f.containers.get? id = some d)
    (s : CentralState) : Swept f hostId [id] s (s.answer (.sync (d.record hostId))).2 := by
  have hid : (d.record hostId).id = id := f.keyed id d hd
  rw [CentralState.answer, hid]
  by_cases hignored : id ∈ s.ignored
  · rw [if_pos (List.contains_iff_mem.2 hignored)]
    refine ⟨?_, rfl, rfl⟩
    intro id'
    by_cases hid' : id' = id
    · simp [hid', hignored]
    · simp [hid']
  · rw [if_neg (by simpa using hignored)]
    refine ⟨?_, rfl, rfl⟩
    intro id'
    by_cases hid' : id' = id
    · simp [hid', hignored, hd]
    · simp [hid']

end Swept

namespace FullSyncReport

/-- The report with some more containers, of which those in a list are ignored. -/
def sweep (r : FullSyncReport) (ignored ids : List String) : FullSyncReport :=
  { r with
    synced := r.synced + ids.countP (· ∉ ignored)
    ignored := r.ignored + ids.countP (· ∈ ignored)
    delays := r.delays + (ids.length - 1) }

theorem sweep_one (r : FullSyncReport) (s : CentralState) (record : ContainerRecord) :
    ∃ outcome, (s.answer (.sync record)).1 = .ok outcome ∧
      r.tally (.ok (.synced outcome)) = r.sweep s.ignored [record.id] := by
  rw [CentralState.answer]
  by_cases hignored : record.id ∈ s.ignored
  · rw [if_pos (List.contains_iff_mem.2 hignored)]
    exact ⟨.ignored, rfl, by simp [sweep, tally, hignored]⟩
  · rw [if_neg (by simpa using hignored)]
    refine ⟨_, rfl, ?_⟩
    cases s.records.contains record.id <;> simp [sweep, tally, hignored]

/-- One more container before others, and the wait between. -/
theorem sweep_cons (r : FullSyncReport) (ignored : List String) (id id' : String)
    (ids : List String) :
    { r.sweep ignored [id] with delays := (r.sweep ignored [id]).delays + 1 }.sweep ignored
      (id' :: ids) = r.sweep ignored (id :: id' :: ids) := by
  simp only [sweep, List.countP_cons, List.countP_nil, List.length_cons, List.length_nil,
    FullSyncReport.mk.injEq]
  exact ⟨trivial, by omega, by omega, trivial, trivial, by omega, trivial⟩

end FullSyncReport

namespace CentralState

/-- The state with those ignore entries only that are to be kept. -/
def retain (s : CentralState) (keep : String → Bool) : CentralState :=
  { s with ignored := s.ignored.filter keep }

theorem retain_congr {s : CentralState} {keep keep' : String → Bool}
    (h : ∀ id ∈ s.ignored, keep id = keep' id) : s.retain keep = s.retain keep' := by
  rw [retain, List.filter_congr h]
  rfl

theorem retain_all {s : CentralState} {keep : String → Bool}
    (h : ∀ id ∈ s.ignored, keep id = true) : s.retain keep = s := by
  rw [retain, List.filter_eq_self.2 h]

theorem retain_retain (s : CentralState) (keep keep' : String → Bool) :
    (s.retain keep).retain keep' = s.retain fun id => keep' id && keep id := by
  simp only [retain, List.filter_filter]

end CentralState

/-! ## What a full sync is to do -/

namespace Fleet

/-- The requests of a full sync: those of a sync for every container, and those of the purge. -/
inductive Asks (f : Fleet) (hostId : String) (ignored : List String) : ContainerRequest → Prop
  | sync {id : String} {d : ContainerDetail} {r : ContainerRequest} :
      f.containers.get? id = some d → r ∈ ContainerRequest.ofSync (d.record hostId) →
        Asks f hostId ignored r
  | listIgnored : Asks f hostId ignored .listIgnored
  | unignore {id : String} : id ∈ ignored → ¬ f.Present id → Asks f hostId ignored (.unignore id)

/-- Fewer ignore entries take fewer requests. -/
theorem Asks.mono {f : Fleet} {hostId : String} {ignored ignored' : List String}
    {r : ContainerRequest} (h : f.Asks hostId ignored' r)
    (hsub : ∀ id ∈ ignored', id ∈ ignored) : f.Asks hostId ignored r := by
  cases h with
  | sync hd hr => exact .sync hd hr
  | listIgnored => exact .listIgnored
  | unignore hid habsent => exact .unignore (hsub _ hid) habsent

/-- What a full sync reports: every container is synced or ignored, and every ignore entry without a
container is purged. -/
def report (f : Fleet) (ignored : List String) : FullSyncReport where
  listed := f.containers.keys.length
  synced := f.containers.keys.countP (· ∉ ignored)
  ignored := f.containers.keys.countP (· ∈ ignored)
  vanished := 0
  failed := 0
  delays := f.containers.keys.length - 1
  purged := ignored.countP (· ∉ f.containers.keys)

end Fleet

/-- What a full sync makes of a server's state. -/
structure Converged (f : Fleet) (hostId : String) (s s' : CentralState) : Prop where
  recorded : ∀ id d, f.containers.get? id = some d → id ∉ s.ignored →
    s'.records.get? id = some (d.record hostId)
  untouched : ∀ id, id ∈ s.ignored ∨ ¬ f.Present id → s'.records.get? id = s.records.get? id
  ignored : s'.ignored = s.ignored.filter (· ∈ f.containers.keys)
  tasks : s'.tasks = s.tasks

namespace Converged

variable {f : Fleet} {hostId : String} {s s' s'' : CentralState}

theorem of_swept {ids : List String} (h : Swept f hostId ids s s')
    (hids : ids.Perm f.containers.keys) :
    Converged f hostId s (s'.retain (· ∈ ids)) where
  recorded := by
    intro id d hd hignored
    have hmem : id ∈ ids := hids.mem_iff.2 ((KeyMap.mem_keys_iff _ _).2 ⟨d, hd⟩)
    have hrecord := h.records id
    rw [if_pos ⟨hmem, hignored⟩, hd] at hrecord
    exact hrecord
  untouched := by
    intro id hid
    have hnot : ¬ (id ∈ ids ∧ id ∉ s.ignored) := by
      rintro ⟨hmem, hignored⟩
      have hpresent : f.Present id := (KeyMap.mem_keys_iff _ _).1 (hids.mem_iff.1 hmem)
      exact hid.elim hignored fun habsent => habsent hpresent
    have hrecord := h.records id
    rw [if_neg hnot] at hrecord
    exact hrecord
  ignored := by
    rw [CentralState.retain, h.ignored]
    refine List.filter_congr ?_
    intro id _
    rw [decide_eq_decide, hids.mem_iff]
  tasks := h.tasks

theorem mem_ignored (h : Converged f hostId s s') (id : String) :
    id ∈ s'.ignored ↔ id ∈ s.ignored ∧ f.Present id := by
  rw [h.ignored, List.mem_filter, decide_eq_true_iff, KeyMap.mem_keys_iff]
  rfl

/-- The ignore entries that are left are all of containers that are there. -/
theorem purged_eq_zero (h : Converged f hostId s s') : (f.report s'.ignored).purged = 0 := by
  refine List.countP_eq_zero.2 ?_
  intro id hid
  have hpresent : f.Present id := ((h.mem_ignored id).1 hid).2
  simpa using (KeyMap.mem_keys_iff _ _).2 hpresent

/-- What a full sync leads to is left alone by another one. -/
theorem again (h : Converged f hostId s s') (h' : Converged f hostId s' s'') : s'' = s' := by
  refine CentralState.eq_of ?_ ?_ h'.tasks
  · intro id
    by_cases hid : id ∈ s'.ignored ∨ ¬ f.Present id
    · exact h'.untouched id hid
    · obtain ⟨hignored, hpresent⟩ := not_or.1 hid
      obtain ⟨d, hd⟩ := not_not.1 hpresent
      have hbefore : id ∉ s.ignored := fun hmem => hignored ((h.mem_ignored id).2 ⟨hmem, d, hd⟩)
      rw [h'.recorded id d hd hignored, h.recorded id d hd hbefore]
  · rw [h'.ignored]
    refine List.filter_eq_self.2 ?_
    intro id hid
    exact decide_eq_true ((KeyMap.mem_keys_iff _ _).2 ((h.mem_ignored id).1 hid).2)

end Converged

namespace Reconcile

open Calm (aside_bind central_brings list_brings pure_brings)

variable {ρ : Type} {session : CentralSession} {handles : ContainerRequest → Prop}
  {srv : CentralServer session.client handles} {c : Calm ρ} {p : Line srv × ρ} {hostId : String}

/-! ## Syncing one container after another -/

/-- Syncing one container sweeps it and adds it to the report. -/
theorem syncOne_sweeps (hcache : p.1.Uncached) {id : String} {d : ContainerDetail}
    (hd : c.fleet.containers.get? id = some d)
    (hr : ∀ r ∈ ContainerRequest.ofSync (d.record hostId), handles r) (r : FullSyncReport) :
    ∃ result, r.tally result = r.sweep p.1.central.ignored [id] ∧
      c.Brings p (syncOne hostId id) result (Swept c.fleet hostId [id] p.1.central) := by
  obtain ⟨outcome, houtcome, htally⟩ := r.sweep_one p.1.central (d.record hostId)
  have hid : (d.record hostId).id = id := c.fleet.keyed id d hd
  rw [hid] at htally
  obtain ⟨p', hrun, hcache', hcentral⟩ := syncOne_brings hcache hd hr (Prod.ext houtcome rfl)
  refine ⟨_, htally, p', hrun, hcache', ?_⟩
  rw [hcentral]
  exact Swept.one hd p.1.central

/-- What syncing one container after another makes of the server and of the report. -/
theorem syncEach_brings (wait : Duration) (refs : List ContainerRef)
    (hrefs : ∀ ref ∈ refs, ∃ d, c.fleet.containers.get? ref.id = some d ∧
      ∀ r ∈ ContainerRequest.ofSync (d.record hostId), handles r)
    (hcache : p.1.Uncached) (r : FullSyncReport) :
    c.Brings p (syncEach hostId wait refs r)
      (r.sweep p.1.central.ignored (refs.map ContainerRef.id))
      (Swept c.fleet hostId (refs.map ContainerRef.id) p.1.central) := by
  induction refs generalizing p r with
  | nil => exact pure_brings hcache (.nil _ _ _) r
  | cons ref refs ih =>
      obtain ⟨d, hd, hr⟩ := hrefs ref List.mem_cons_self
      obtain ⟨result, htally, hfirst⟩ := syncOne_sweeps hcache hd hr r
      cases refs with
      | nil =>
          refine hfirst.bind ?_
          intro p₁ hcache₁ hswept
          rw [htally]
          exact pure_brings hcache₁ hswept _
      | cons ref' refs =>
          refine hfirst.bind ?_
          intro p₁ hcache₁ hswept
          rw [htally]
          refine aside_bind ?_ hcache₁ ?_
          · trivial
          · intro _ p₂ hcache₂ hcentral₂
            rw [← hcentral₂] at hswept
            obtain ⟨p₃, hrun, hcache₃, hswept'⟩ :=
              ih (fun ref hmem => hrefs ref (List.mem_cons_of_mem _ hmem)) hcache₂ _
            refine ⟨p₃, ?_, hcache₃, hswept.append hswept'⟩
            rw [hrun, hswept.ignored, List.map_cons, FullSyncReport.sweep_cons]
            rfl

/-! ## Purging -/

/-- All entries are removed, and each counts. -/
theorem removeEntries_brings (entries : List IgnoreEntry) (hcache : p.1.Uncached)
    (hr : ∀ id ∈ entries.map IgnoreEntry.containerId, handles (.unignore id)) :
    c.Brings p (removeEntries entries) entries.length fun s =>
      s = p.1.central.retain (· ∉ entries.map IgnoreEntry.containerId) := by
  induction entries generalizing p with
  | nil =>
      refine pure_brings hcache ?_ _
      exact (CentralState.retain_all (by simp)).symm
  | cons e es ih =>
      have hfirst : handles (.unignore e.containerId) := hr _ List.mem_cons_self
      refine (central_brings (Line.removeIgnored_brings hcache hfirst)).bind ?_
      intro p₁ hcache₁ hcentral₁
      refine (ih hcache₁ fun id hid => hr id (List.mem_cons_of_mem _ hid)).bind ?_
      intro p₂ hcache₂ hcentral₂
      have hcount : (if (Except.ok () : Except CentralError Unit).isOk then 1 else 0) + es.length =
          (e :: es).length := Nat.add_comm _ _
      have hunignore : p.1.central.unignore e.containerId =
          p.1.central.retain (· ≠ e.containerId) := rfl
      rw [hcount]
      refine pure_brings hcache₂ ?_ _
      rw [hcentral₂, hcentral₁, hunignore, CentralState.retain_retain]
      refine CentralState.retain_congr ?_
      intro id _
      rw [Bool.eq_iff_iff, List.map_cons]
      simp only [Bool.and_eq_true, decide_eq_true_iff, List.mem_cons, not_or]
      exact and_comm

/-- The entries that a purge removes are those of containers that are not present. -/
theorem mem_stale_iff {present ignored : List String} {entries : List IgnoreEntry}
    (hperm : (entries.map IgnoreEntry.containerId).Perm ignored) (id : String) :
    id ∈ (entries.filter fun e => !present.contains e.containerId).map IgnoreEntry.containerId ↔
      id ∈ ignored ∧ id ∉ present := by
  rw [← hperm.mem_iff, List.mem_map, List.mem_map]
  constructor
  · rintro ⟨e, he, rfl⟩
    obtain ⟨hmem, habsent⟩ := List.mem_filter.1 he
    exact ⟨⟨e, hmem, rfl⟩, by simpa using habsent⟩
  · rintro ⟨⟨e, hmem, rfl⟩, habsent⟩
    exact ⟨e, List.mem_filter.2 ⟨hmem, by simpa using habsent⟩, rfl⟩

theorem length_stale {present ignored : List String} {entries : List IgnoreEntry}
    (hperm : (entries.map IgnoreEntry.containerId).Perm ignored) :
    (entries.filter fun e => !present.contains e.containerId).length =
      ignored.countP (· ∉ present) := by
  rw [← hperm.countP_eq, List.countP_map, ← List.countP_eq_length_filter]
  simp [Function.comp_def]

/-- The purge leaves the ignore entries of what is present. -/
theorem purge_brings (present : List String) (hcache : p.1.Uncached) (hlist : handles .listIgnored)
    (hr : ∀ id ∈ p.1.central.ignored, id ∉ present → handles (.unignore id)) :
    c.Brings p (purge present) (p.1.central.ignored.countP (· ∉ present)) fun s =>
      s = p.1.central.retain (· ∈ present) := by
  obtain ⟨entries, hperm, hlisted⟩ := Line.listIgnored_brings hcache hlist
  refine (central_brings hlisted).bind ?_
  intro p₁ hcache₁ hcentral₁
  have hstale : ∀ id ∈ (entries.filter fun e => !present.contains e.containerId).map
      IgnoreEntry.containerId, handles (.unignore id) := by
    intro id hid
    obtain ⟨hmem, habsent⟩ := (mem_stale_iff hperm id).1 hid
    exact hr id hmem habsent
  obtain ⟨p₂, hrun, hcache₂, hcentral₂⟩ := removeEntries_brings _ hcache₁ hstale
  refine ⟨p₂, hrun.trans ?_, hcache₂, ?_⟩
  · rw [length_stale hperm]
  · rw [hcentral₂, hcentral₁]
    refine CentralState.retain_congr ?_
    intro id hid
    rw [decide_eq_decide, mem_stale_iff hperm]
    simp [hid]

/-! ## The full sync -/

theorem report_eq (c : Calm ρ) (ignored : List String) :
    { ({ (default : FullSyncReport) with listed := c.refs.length }).sweep ignored
        (c.refs.map ContainerRef.id) with
      purged := ignored.countP (· ∉ c.refs.map ContainerRef.id) } = c.fleet.report ignored := by
  have hperm : (c.refs.map ContainerRef.id).Perm c.fleet.containers.keys := c.listed
  have hlength : c.refs.length = c.fleet.containers.keys.length := by
    rw [← hperm.length_eq, List.length_map]
  have hids : (c.refs.map ContainerRef.id).length = c.fleet.containers.keys.length :=
    hperm.length_eq
  have hpurged : ignored.countP (· ∉ c.refs.map ContainerRef.id) =
      ignored.countP (· ∉ c.fleet.containers.keys) := by
    refine List.countP_congr ?_
    intro id _
    simp only [hperm.mem_iff]
  have hnone : (default : FullSyncReport) = ⟨0, 0, 0, 0, 0, 0, 0⟩ := rfl
  rw [hnone, hpurged]
  simp only [FullSyncReport.sweep, Fleet.report, hlength, hids, hperm.countP_eq, Nat.zero_add]

/-- What a full sync notes about itself changes nothing. -/
theorem afterPurge_brings (hcache : p.1.Uncached) {After : CentralState → Prop}
    (h : After p.1.central) (started : Duration) (report : FullSyncReport) :
    c.Brings p (afterPurge hostId started report) (.ok report) After := by
  refine aside_bind trivial hcache ?_
  intro _ p₁ hcache₁ hcentral₁
  refine aside_bind ?_ hcache₁ ?_
  · trivial
  intro _ p₂ hcache₂ hcentral₂
  refine aside_bind ?_ hcache₂ ?_
  · trivial
  intro _ p₃ hcache₃ hcentral₃
  refine aside_bind ?_ hcache₃ ?_
  · trivial
  intro _ p₄ hcache₄ hcentral₄
  refine pure_brings hcache₄ ?_ _
  rw [hcentral₄, hcentral₃, hcentral₂, hcentral₁]
  exact h

/-- In calm surroundings a full sync succeeds, and does what it is for. -/
theorem fullSync_brings (wait : Duration) (hcache : p.1.Uncached)
    (hserved : ∀ r, c.fleet.Asks hostId p.1.central.ignored r → handles r) :
    c.Brings p (fullSync hostId wait) (.ok (c.fleet.report p.1.central.ignored))
      (Converged c.fleet hostId p.1.central) := by
  have hperm : (c.refs.map ContainerRef.id).Perm c.fleet.containers.keys := c.listed
  refine aside_bind ?_ hcache ?_
  · trivial
  intro started p₁ hcache₁ hcentral₁
  refine (list_brings hcache₁).bind ?_
  intro p₂ hcache₂ hcentral₂
  have hrefs : ∀ ref ∈ c.refs, ∃ d, c.fleet.containers.get? ref.id = some d ∧
      ∀ r ∈ ContainerRequest.ofSync (d.record hostId), handles r := by
    intro ref hmem
    have hkey : ref.id ∈ c.fleet.containers.keys := hperm.mem_iff.1 (List.mem_map_of_mem hmem)
    obtain ⟨d, hd⟩ := (KeyMap.mem_keys_iff _ _).1 hkey
    exact ⟨d, hd, fun r hr => hserved r (.sync hd hr)⟩
  refine (syncEach_brings wait c.refs hrefs hcache₂ _).bind ?_
  intro p₃ hcache₃ hswept
  rw [hcentral₂, hcentral₁] at hswept ⊢
  have hunignore : ∀ id ∈ p₃.1.central.ignored, id ∉ c.refs.map ContainerRef.id →
      handles (.unignore id) := by
    intro id hid habsent
    rw [hswept.ignored] at hid
    refine hserved _ (.unignore hid ?_)
    intro hpresent
    exact habsent (hperm.mem_iff.2 ((KeyMap.mem_keys_iff _ _).2 hpresent))
  refine (purge_brings _ hcache₃ (hserved _ .listIgnored) hunignore).bind ?_
  intro p₄ hcache₄ hcentral₄
  rw [hswept.ignored]
  have hconverged : Converged c.fleet hostId p.1.central p₄.1.central := by
    rw [hcentral₄]
    exact .of_swept hswept hperm
  rw [← report_eq]
  exact afterPurge_brings hcache₄ hconverged started _

/-- The containers stay as they are, and the server keeps its contract for the requests of a full
sync. Then a full sync succeeds with the report that is due. Every container that is not ignored has
its record afterwards, all other records are as they were, and the ignore entries that are left are
those of containers that are there. Another full sync succeeds too, purges nothing and changes
nothing. -/
theorem fullSync_converges (c : Calm ρ) (hostId : String) (wait : Duration) (p : Line srv × ρ)
    (hcache : p.1.Uncached)
    (hserved : ∀ r, c.fleet.Asks hostId p.1.central.ignored r → handles r) :
    ∃ p₁ p₂,
      (fullSync hostId wait).run c.answer p =
        (.ok (c.fleet.report p.1.central.ignored), p₁) ∧
      Converged c.fleet hostId p.1.central p₁.1.central ∧
      (fullSync hostId wait).run c.answer p₁ =
        (.ok (c.fleet.report p₁.1.central.ignored), p₂) ∧
      (c.fleet.report p₁.1.central.ignored).purged = 0 ∧
      p₂.1.central = p₁.1.central := by
  obtain ⟨p₁, hfirst, hcache₁, hconverged⟩ := fullSync_brings wait hcache hserved
  have hsub : ∀ id ∈ p₁.1.central.ignored, id ∈ p.1.central.ignored :=
    fun id hid => ((hconverged.mem_ignored id).1 hid).1
  have hserved₁ : ∀ r, c.fleet.Asks hostId p₁.1.central.ignored r → handles r :=
    fun r hr => hserved r (hr.mono hsub)
  obtain ⟨p₂, hsecond, -, hconverged'⟩ := fullSync_brings wait hcache₁ hserved₁
  exact ⟨p₁, p₂, hfirst, hconverged, hsecond, hconverged.purged_eq_zero,
    hconverged.again hconverged'⟩

/-! ## A pass over two containers

One of the containers is ignored. There is an ignore entry, and also a record, of a container that
is not there any more. -/

/-- A container that stands still. -/
def idle : ContainerDetail := { web with id := "y", name := "idle", state := .none }

/-- The record of a container from before. -/
def oldRecord : ContainerRecord := { web.record "h1" with id := "z", name := "old" }

def pairRequests : List ContainerRequest :=
  ContainerRequest.ofSync (web.record "h1") ++ ContainerRequest.ofSync (idle.record "h1") ++
    [.listIgnored, .unignore "z"]

/-- An ignore list as it is written. -/
def writtenList (ids : List String) : String :=
  (Json.array (ids.map fun id => (CentralState.entry id).toJson)).render

theorem read_writtenList : ∀ ids ∈ ["y", "z"].sublists,
    (Json.decodeText (.list IgnoreEntry.decoder) (writtenList ids)).toOption =
      some (ids.map CentralState.entry) := by
  decide +kernel

def pairServer : CentralServer plainSession.client (· ∈ pairRequests) :=
  .ofTable plainSession.client pairRequests ["y", "z"].sublists writtenList
    (by decide +kernel)
    (by decide +kernel)
    (by
      intro ids hids id
      rw [List.mem_sublists] at hids ⊢
      exact List.filter_sublist.trans hids)
    (by
      intro ids hids
      have hread := read_writtenList ids hids
      refine ⟨ids.map CentralState.entry, ?_, ?_⟩
      · cases hdecode : Json.decodeText (.list IgnoreEntry.decoder) (writtenList ids) with
        | error e => simp [hdecode, Except.toOption] at hread
        | ok entries => simpa [hdecode, Except.toOption] using hread
      · rw [List.map_map]
        exact .of_eq (List.map_id ids))

def pairCalm : Calm Unit where
  fleet := (Fleet.single web).add idle
  refs := [⟨"x", "web"⟩, ⟨"y", "idle"⟩]
  listed := .refl _
  rest _ a := (match a with
    | .engine _ => .error (.unavailable "")
    | .central _ => .error .transport
    | .nextEvent => none
    | .now => .zero
    | .measure => ⟨default, 0, default, .epoch⟩
    | .subscribe => ()
    | .sleep _ => ()
    | .sleepUntil _ => ()
    | .notice _ => (), ())

def pairCentral : CentralState :=
  ⟨(∅ : KeyMap ContainerRecord).insert "z" oldRecord, ["y", "z"], []⟩

def pairStart : Line pairServer × Unit :=
  (⟨⟨pairCentral, by decide⟩, .empty .zero, .zero⟩, ())

theorem pair_asks (r : ContainerRequest) (h : pairCalm.fleet.Asks "h1" ["y", "z"] r) :
    r ∈ pairRequests := by
  cases h with
  | @sync id d r hd hr =>
      have hcases : d = idle ∨ d = web := by
        have hget : (if id = "y" then some idle else if id = "x" then some web else none) =
            some d := by
          rw [← hd]
          simp [pairCalm, Fleet.single, Fleet.add, Fleet.empty, idle, web]
        split at hget
        · cases hget
          exact .inl rfl
        · split at hget
          · cases hget
            exact .inr rfl
          · cases hget
      rcases hcases with rfl | rfl
      · exact List.mem_append_left _ (List.mem_append_right _ hr)
      · exact List.mem_append_left _ (List.mem_append_left _ hr)
  | listIgnored => exact List.mem_append_right _ (by simp)
  | @unignore id hid habsent =>
      rcases List.mem_cons.1 hid with rfl | hid
      · exact absurd ⟨idle, rfl⟩ habsent
      · obtain rfl : id = "z" := List.mem_singleton.1 hid
        exact List.mem_append_right _ (by simp)

/-- The container that is not ignored gets its record, the entry without a container goes, and all
else stays. -/
theorem fullSync_converges_pair :
    ∃ p₁ p₂,
      (fullSync "h1" .zero).run pairCalm.answer pairStart = (.ok ⟨2, 1, 1, 0, 0, 1, 1⟩, p₁) ∧
      p₁.1.central.records.get? "x" = some (web.record "h1") ∧
      p₁.1.central.records.get? "y" = none ∧
      p₁.1.central.records.get? "z" = some oldRecord ∧
      p₁.1.central.ignored = ["y"] ∧
      (fullSync "h1" .zero).run pairCalm.answer p₁ = (.ok ⟨2, 1, 1, 0, 0, 1, 0⟩, p₂) ∧
      p₂.1.central = p₁.1.central := by
  obtain ⟨p₁, p₂, hfirst, hconverged, hsecond, -, hsame⟩ :=
    fullSync_converges pairCalm "h1" .zero pairStart rfl pair_asks
  have hignored : p₁.1.central.ignored = ["y"] := hconverged.ignored
  rw [hignored] at hsecond
  have hgone : ¬ pairCalm.fleet.Present "z" := by
    rintro ⟨d, hd⟩
    cases hd
  refine ⟨p₁, p₂, hfirst, ?_, ?_, ?_, hignored, hsecond, hsame⟩
  · exact hconverged.recorded "x" web rfl (by decide)
  · exact hconverged.untouched "y" (.inl (by decide))
  · exact hconverged.untouched "z" (.inr hgone)

end Reconcile

end HostAgent
