import Mathlib.Data.List.Forall2
import HostAgent.Proofs.Central.Steps

/-!
# What a full sync asks

Whatever the engine and the central server reply, the questions of a full sync
have little choice in them. It lists the containers, visits each in the order of
the list with one wait between two visits, lists the ignore entries, removes
those of containers that it has not listed, and reports. A visit that fails, or
an entry that cannot be removed, does not keep it from the next one. Only a list
of containers that cannot be had ends it early, before the central server was
asked anything.

The language of these questions is written down first. The report counts the
visits by their outcomes and the entries that were removed.

## Main results

* `syncOne_visits`: the questions about one container.
* `syncEach_tours`: one container after another, and the report on them.
* `purge_removes`: the removal of entries.
* `yields_fullSync`: the parts of a full sync.
* `fullSync_accounts`: the whole of a full sync, and its report.
-/

namespace HostAgent

/-! ## Reports -/

namespace FullSyncReport

/-- The report with some more containers, by what happened to each. -/
def tallies (r : FullSyncReport) (outcomes : List (Except SyncError SyncResult)) :
    FullSyncReport :=
  { r with
    synced := r.synced + outcomes.countP fun
      | .ok (.synced outcome) => outcome != .ignored
      | _ => false
    ignored := r.ignored + outcomes.countP fun
      | .ok (.synced outcome) => outcome == .ignored
      | _ => false
    vanished := r.vanished + outcomes.countP fun
      | .ok .vanished => true
      | _ => false
    failed := r.failed + outcomes.countP fun
      | .ok _ => false
      | .error _ => true }

@[simp] theorem tally_delays (r : FullSyncReport) (outcome : Except SyncError SyncResult) :
    (r.tally outcome).delays = r.delays := by
  unfold tally
  split <;> rfl

@[simp] theorem tallies_nil (r : FullSyncReport) : r.tallies [] = r := rfl

/-- Counting outcomes one by one is counting them all. -/
theorem tallies_cons (r : FullSyncReport) (outcome : Except SyncError SyncResult)
    (outcomes : List (Except SyncError SyncResult)) :
    (r.tally outcome).tallies outcomes = r.tallies (outcome :: outcomes) := by
  rcases outcome with e | ⟨⟨⟩⟩ | _ <;> simp [tallies, tally] <;> omega

theorem tallies_total (r : FullSyncReport) (outcomes : List (Except SyncError SyncResult)) :
    (r.tallies outcomes).total = r.total + outcomes.length := by
  induction outcomes generalizing r with
  | nil => rfl
  | cons outcome outcomes ih =>
      rw [← tallies_cons, ih, tally_total, List.length_cons]
      omega

end FullSyncReport

namespace Reconcile

/-! ## The language of a full sync -/

/-- What is asked about one container, and what comes of it: it is inspected, and what was found is
sent to the central server. -/
inductive Visit (hostId id : String) :
    List (Asked Action.Reply) → Except SyncError SyncResult → Prop
  | vanished {e : EngineError} : e.isNotFound = true →
      Visit hostId id [⟨.engine (.inspect id), .error e⟩] (.ok .vanished)
  | unseen {e : EngineError} : e.isNotFound = false →
      Visit hostId id [⟨.engine (.inspect id), .error e⟩] (.error (.engine e))
  | refused (detail : ContainerDetail) (e : CentralError) :
      Visit hostId id
        [⟨.engine (.inspect id), .ok detail⟩,
          ⟨.central (.sync (detail.record hostId)), .error e⟩,
          ⟨.notice (.series .syncFailed), ()⟩]
        (.error (.central e))
  | taken (detail : ContainerDetail) (outcome : SyncOutcome) :
      Visit hostId id
        [⟨.engine (.inspect id), .ok detail⟩,
          ⟨.central (.sync (detail.record hostId)), .ok outcome⟩,
          ⟨.notice (.series (if outcome = .ignored then .syncIgnored else .synced)), ()⟩]
        (.ok (.synced outcome))

/-- One visit after another, with a wait between two. -/
def tour (wait : Duration) (visits : List (List (Asked Action.Reply))) :
    List (Asked Action.Reply) :=
  [⟨.sleep wait, ()⟩].intercalate visits

/-- The entries of containers that are not present. -/
def stale (present : List String) (entries : List IgnoreEntry) : List IgnoreEntry :=
  entries.filter fun e => !present.contains e.containerId

/-- Entries are removed one after another, whatever is replied. -/
def removals (entries : List IgnoreEntry) (replies : List (Except CentralError Unit)) :
    List (Asked Action.Reply) :=
  List.zipWith (fun e reply => ⟨.central (.removeIgnored e.containerId), reply⟩) entries replies

/-- What is asked about ignore entries, and how many were removed. -/
inductive Removing (present : List String) : List (Asked Action.Reply) → Nat → Prop
  | unlisted (e : CentralError) : Removing present [⟨.central .listIgnored, .error e⟩] 0
  | listed (entries : List IgnoreEntry) {replies : List (Except CentralError Unit)} :
      replies.length = (stale present entries).length →
      Removing present
        (⟨.central .listIgnored, .ok entries⟩ :: removals (stale present entries) replies)
        (replies.countP Except.isOk)

/-- How a full sync closes: it takes the time, and tells of the report. -/
def closing (hostId : String) (started ended : Duration) (report : FullSyncReport) :
    List (Asked Action.Reply) :=
  let elapsed := ended.since started
  [⟨.now, ended⟩,
    ⟨.notice (.series (.fullSync (.ofFloat elapsed.seconds) report.listed)), ()⟩,
    ⟨.notice (.series (.purged report.purged)), ()⟩,
    ⟨.notice (.event hostId (.fullSync report elapsed.millis)), ()⟩]

theorem tour_cons_cons (wait : Duration) (visit visit' : List (Asked Action.Reply))
    (visits : List (List (Asked Action.Reply))) :
    tour wait (visit :: visit' :: visits) =
      visit ++ ⟨.sleep wait, ()⟩ :: tour wait (visit' :: visits) := by
  rw [tour, List.intercalate_cons_cons, List.append_assoc]
  rfl

/-! ## Histories -/

variable {hostId : String} {wait : Duration} {past : List (Asked Action.Reply)}

theorem syncOne_visits {id : String} {result : Except SyncError SyncResult}
    (h : (syncOne hostId id).Yields past result) : Visit hostId id past result := by
  rw [syncOne_eq] at h
  obtain ⟨inspected, rest, rfl, hrest⟩ := (Program.yields_ask _ _ _ _).1 h
  cases inspected with
  | error e =>
      obtain ⟨rfl, rfl⟩ := (Program.yields_done _ _ _).1 hrest
      cases hgone : e.isNotFound with
      | true => exact .vanished hgone
      | false => exact .unseen hgone
  | ok detail =>
      obtain ⟨reply, rest, rfl, hafter⟩ := (Program.yields_ask _ _ _ _).1 hrest
      cases reply with
      | error e =>
          obtain ⟨⟨⟩, _, rfl, hend⟩ := (Program.yields_ask _ _ _ _).1 hafter
          obtain ⟨rfl, rfl⟩ := (Program.yields_done _ _ _).1 hend
          exact .refused detail e
      | ok outcome =>
          obtain ⟨⟨⟩, _, rfl, hend⟩ := (Program.yields_ask _ _ _ _).1 hafter
          obtain ⟨rfl, rfl⟩ := (Program.yields_done _ _ _).1 hend
          exact .taken detail outcome

/-- Each container is visited once, in order, and the report counts the visits and the waits. -/
theorem syncEach_tours {refs : List ContainerRef} {r report : FullSyncReport}
    (h : (syncEach hostId wait refs r).Yields past report) :
    ∃ visits : List (List (Asked Action.Reply) × Except SyncError SyncResult),
      List.Forall₂ (fun c visit => Visit hostId c.id visit.1 visit.2) refs visits ∧
      past = tour wait (visits.map Prod.fst) ∧
      report = { r.tallies (visits.map Prod.snd) with delays := r.delays + (refs.length - 1) } := by
  induction refs generalizing r past with
  | nil =>
      obtain ⟨rfl, rfl⟩ := (Program.yields_done _ _ _).1 h
      exact ⟨[], .nil, rfl, rfl⟩
  | cons c refs ih =>
      cases refs with
      | nil =>
          obtain ⟨first, _, outcome, rfl, hvisit, hend⟩ := (Program.yields_bind _ _ _ _).1 h
          obtain ⟨rfl, rfl⟩ := (Program.yields_done _ _ _).1 hend
          refine ⟨[(first, outcome)], .cons (syncOne_visits hvisit) .nil, ?_, ?_⟩
          · simp [tour]
          · exact FullSyncReport.tallies_cons r outcome []
      | cons c' refs =>
          obtain ⟨first, _, outcome, rfl, hvisit, hnext⟩ := (Program.yields_bind _ _ _ _).1 h
          obtain ⟨⟨⟩, rest, rfl, hrest⟩ := (Program.yields_ask _ _ _ _).1 hnext
          obtain ⟨visits, hvisits, rfl, rfl⟩ := ih hrest
          refine ⟨(first, outcome) :: visits, .cons (syncOne_visits hvisit) hvisits, ?_, ?_⟩
          · -- The wait stands before a visit that is still to come.
            cases hvisits with
            | cons _ _ => exact (tour_cons_cons wait first _ _).symm
          · have hdelays : (r.tally outcome).delays + 1 + ((c' :: refs).length - 1) =
                r.delays + ((c :: c' :: refs).length - 1) := by
              simp only [FullSyncReport.tally_delays, List.length_cons]
              omega
            rw [List.map_cons, ← FullSyncReport.tallies_cons, ← hdelays]
            rfl

theorem removeEntries_removes {entries : List IgnoreEntry} {n : Nat}
    (h : (removeEntries entries).Yields past n) :
    ∃ replies, replies.length = entries.length ∧ past = removals entries replies ∧
      n = replies.countP Except.isOk := by
  induction entries generalizing past n with
  | nil =>
      obtain ⟨rfl, rfl⟩ := (Program.yields_done _ _ _).1 h
      exact ⟨[], rfl, rfl, rfl⟩
  | cons e entries ih =>
      obtain ⟨reply, rest, rfl, hrest⟩ := (Program.yields_ask _ _ _ _).1 h
      have hothers : ((removeEntries entries).bind fun m =>
          .done ((if reply.isOk then 1 else 0) + m)).Yields rest n := hrest
      obtain ⟨_, _, m, rfl, hremoved, hend⟩ := (Program.yields_bind _ _ _ _).1 hothers
      obtain ⟨rfl, rfl⟩ := (Program.yields_done _ _ _).1 hend
      obtain ⟨replies, hlength, rfl, rfl⟩ := ih hremoved
      refine ⟨reply :: replies, congrArg Nat.succ hlength, ?_, ?_⟩
      · rw [List.append_nil]
        rfl
      · rw [List.countP_cons, Nat.add_comm]

theorem purge_removes {present : List String} {n : Nat} (h : (purge present).Yields past n) :
    Removing present past n := by
  obtain ⟨reply, rest, rfl, hrest⟩ := (Program.yields_ask _ _ _ _).1 h
  cases reply with
  | error e =>
      obtain ⟨rfl, rfl⟩ := (Program.yields_done _ _ _).1 hrest
      exact .unlisted e
  | ok entries =>
      obtain ⟨replies, hlength, rfl, rfl⟩ := removeEntries_removes hrest
      exact .listed entries hlength

theorem afterPurge_closes {started : Duration} {report : FullSyncReport}
    {result : Except SyncError FullSyncReport}
    (h : (afterPurge hostId started report).Yields past result) :
    ∃ ended, past = closing hostId started ended report ∧ result = .ok report := by
  obtain ⟨ended, counted, rfl, hcounted⟩ := (Program.yields_ask _ _ _ _).1 h
  obtain ⟨⟨⟩, purged, rfl, hpurged⟩ := (Program.yields_ask _ _ _ _).1 hcounted
  obtain ⟨⟨⟩, logged, rfl, hlogged⟩ := (Program.yields_ask _ _ _ _).1 hpurged
  obtain ⟨⟨⟩, rest, rfl, hend⟩ := (Program.yields_ask _ _ _ _).1 hlogged
  obtain ⟨rfl, hresult⟩ := (Program.yields_done _ _ _).1 hend
  exact ⟨ended, rfl, hresult.symm⟩

/-! ## A full sync -/

/-- A full sync ends where the containers cannot be listed, or goes through all of its parts. -/
theorem yields_fullSync {result : Except SyncError FullSyncReport}
    (h : (fullSync hostId wait).Yields past result) :
    (∃ started e, past = [⟨.now, started⟩, ⟨.engine (.list true), .error e⟩] ∧
      result = .error (.engine e)) ∨
    ∃ started refs visited removing ended report purged,
      past = ⟨.now, started⟩ :: ⟨.engine (.list true), .ok refs⟩ ::
        (visited ++ removing ++ closing hostId started ended { report with purged }) ∧
      (syncEach hostId wait refs { (default : FullSyncReport) with
        listed := refs.length }).Yields visited report ∧
      Removing (refs.map ContainerRef.id) removing purged ∧
      result = .ok { report with purged } := by
  obtain ⟨started, _, rfl, hlist⟩ := (Program.yields_ask _ _ _ _).1 h
  obtain ⟨listed, _, rfl, hrest⟩ := (Program.yields_ask _ _ _ _).1 hlist
  cases listed with
  | error e =>
      obtain ⟨rfl, hresult⟩ := (Program.yields_done _ _ _).1 hrest
      exact .inl ⟨started, e, rfl, hresult.symm⟩
  | ok refs =>
      have hsync : ((syncEach hostId wait refs { (default : FullSyncReport) with
          listed := refs.length }).bind fun report =>
            (purge (refs.map ContainerRef.id)).bind fun purged =>
              afterPurge hostId started { report with purged }).Yields _ result := hrest
      obtain ⟨visited, _, report, rfl, heach, hpurge⟩ := (Program.yields_bind _ _ _ _).1 hsync
      obtain ⟨removing, _, purged, rfl, hremoved, hclose⟩ :=
        (Program.yields_bind _ _ _ _).1 hpurge
      obtain ⟨ended, rfl, hresult⟩ := afterPurge_closes hclose
      refine .inr ⟨started, refs, visited, removing, ended, report, purged, ?_, heach,
        purge_removes hremoved, hresult⟩
      rw [List.append_assoc]

/-- Whatever is replied, a full sync comes to an end. If the containers cannot be listed, it ends
with that error and asks the central server nothing. Otherwise it visits each listed container once
and in order, waits once between two visits, and then lists the ignore entries and tries to remove
each one of a container that it has not listed. Its report counts the visits by their outcomes, the
waits between them, and the entries that were removed. -/
theorem fullSync_accounts {σ : Type} (hostId : String) (wait : Duration)
    (answer : σ → (a : Action) → a.Reply × σ) (s : σ) :
    let past := (fullSync hostId wait).history answer s
    let result := ((fullSync hostId wait).run answer s).1
    (∃ started e, past = [⟨.now, started⟩, ⟨.engine (.list true), .error e⟩] ∧
      result = .error (.engine e)) ∨
    ∃ started refs ended removing report,
      ∃ visits : List (List (Asked Action.Reply) × Except SyncError SyncResult),
        past = ⟨.now, started⟩ :: ⟨.engine (.list true), .ok refs⟩ ::
          (tour wait (visits.map Prod.fst) ++ removing ++ closing hostId started ended report) ∧
        result = .ok report ∧
        List.Forall₂ (fun c visit => Visit hostId c.id visit.1 visit.2) refs visits ∧
        Removing (refs.map ContainerRef.id) removing report.purged ∧
        report = { (default : FullSyncReport).tallies (visits.map Prod.snd) with
          listed := refs.length
          delays := refs.length - 1
          purged := report.purged } ∧
        report.total = refs.length := by
  intro past result
  have h : (fullSync hostId wait).Yields past result := Program.yields_run answer _ s
  rcases yields_fullSync h with hunlisted |
    ⟨started, refs, visited, removing, ended, _, purged, hpast, heach, hremoving, hresult⟩
  · exact .inl hunlisted
  · obtain ⟨visits, hvisits, rfl, rfl⟩ := syncEach_tours heach
    have htotal : ((default : FullSyncReport).tallies (visits.map Prod.snd)).total =
        refs.length := by
      rw [FullSyncReport.tallies_total, List.length_map, ← hvisits.length_eq]
      exact Nat.zero_add _
    refine .inr ⟨started, refs, ended, removing, _, visits, hpast, hresult, hvisits, hremoving,
      ?_, htotal⟩
    have hdelays : (default : FullSyncReport).delays = 0 := rfl
    simp [FullSyncReport.tallies, hdelays]

end Reconcile

end HostAgent
