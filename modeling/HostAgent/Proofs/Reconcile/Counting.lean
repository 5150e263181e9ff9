import HostAgent.Proofs.Agent.Questions
import HostAgent.Proofs.Reconcile.Fleet
import HostAgent.Proofs.Reconcile.Passes

/-!
# What a full sync counts

A full sync keeps two accounts of itself. The series count what syncing one
container came to, each time it is done, and the report counts what came of each
listed container. They are kept in different places: the series on some of the
ways out of `Reconcile.syncOne`, the report on its result.

The accounts agree but for one way out. A container that is there but cannot be
inspected has failed for the report, and the series know nothing of it: failures
are counted only once something was sent to the central server. So the series
fall behind the report by the number of such containers.

## Main results

* `Agrees.visit`: the two accounts after one more container.
* `Agrees.syncEach`: the two accounts after all containers.
* `fullSync_counts`: the series after a full sync that gave a report.
-/

namespace HostAgent.Reconcile

/-- The container was not seen, although it may be there. -/
def isUnseen : Asked Action.Reply → Bool
  | ⟨.engine (.inspect _), .error e⟩ => !e.isNotFound
  | _ => false

/-- How many containers were not seen, although they may be there. -/
def unseen (past : List (Asked Action.Reply)) : Nat := past.countP isUnseen

theorem unseen_append (first second : List (Asked Action.Reply)) :
    unseen (first ++ second) = unseen first + unseen second :=
  List.countP_append

theorem unseen_eq_zero_iff (past : List (Asked Action.Reply)) :
    unseen past = 0 ↔
      ∀ id e, (⟨.engine (.inspect id), .error e⟩ : Asked Action.Reply) ∈ past →
        e.isNotFound = true := by
  rw [unseen, List.countP_eq_zero]
  constructor
  · intro h id e hmem
    simpa [isUnseen] using h _ hmem
  · rintro h ⟨q, r⟩ hmem hunseen
    cases q with
    | engine call =>
        cases call with
        | inspect id =>
            cases r with
            | error e => simp [isUnseen, h id e hmem] at hunseen
            | ok detail => cases hunseen
        | _ => cases hunseen
    | _ => cases hunseen

/-- Since these series, a full sync has counted what its report counts so far, but for `n`
containers that were not seen. Ignore entries are counted at its end. -/
structure Agrees (series now : Series) (n : Nat) (r : FullSyncReport) : Prop where
  synced_eq : now.syncs = series.syncs + r.synced
  ignored_eq : now.syncsSkippedIgnored = series.syncsSkippedIgnored + r.ignored
  failed_eq : now.syncErrors + n = series.syncErrors + r.failed
  purged_eq : now.ignoreEntriesPurged = series.ignoreEntriesPurged

namespace Agrees

variable {series now : Series} {n : Nat} {past : List (Asked Action.Reply)}
  {r report : FullSyncReport} {hostId id : String}

/-- Each way out of a visit is counted in both accounts, but for that of a container not seen. -/
theorem visit {outcome : Except SyncError SyncResult} (h : Agrees series now n r)
    (hvisit : Visit hostId id past outcome) :
    Agrees series (now.after past) (n + unseen past) (r.tally outcome) := by
  obtain ⟨hsynced, hignored, hfailed, hpurged⟩ := h
  cases hvisit with
  | @vanished e hgone =>
      have hnone : unseen [⟨.engine (.inspect id), .error e⟩] = 0 := by
        simp [unseen, isUnseen, hgone]
      rw [hnone]
      exact ⟨hsynced, hignored, hfailed, hpurged⟩
  | @unseen e hthere =>
      have hone : Reconcile.unseen [⟨.engine (.inspect id), .error e⟩] = 1 := by
        simp [Reconcile.unseen, isUnseen, hthere]
      rw [hone]
      exact ⟨hsynced, hignored, congrArg Nat.succ hfailed, hpurged⟩
  | refused detail e =>
      have hcounted : now.syncErrors + 1 + n = series.syncErrors + (r.failed + 1) := by omega
      exact ⟨hsynced, hignored, hcounted, hpurged⟩
  | taken detail outcome =>
      cases outcome with
      | ignored => exact ⟨hsynced, congrArg Nat.succ hignored, hfailed, hpurged⟩
      | created | updated => exact ⟨congrArg Nat.succ hsynced, hignored, hfailed, hpurged⟩

/-- One container after another; a wait counts nothing. -/
theorem syncEach {wait : Duration} {refs : List ContainerRef} (h : Agrees series now n r)
    (hsync : (Reconcile.syncEach hostId wait refs r).Yields past report) :
    Agrees series (now.after past) (n + unseen past) report := by
  induction refs generalizing now n r past with
  | nil =>
      obtain ⟨rfl, rfl⟩ := (Program.yields_done _ _ _).1 hsync
      exact h
  | cons c refs ih =>
      cases refs with
      | nil =>
          obtain ⟨first, _, outcome, rfl, hvisit, hend⟩ := (Program.yields_bind _ _ _ _).1 hsync
          obtain ⟨rfl, rfl⟩ := (Program.yields_done _ _ _).1 hend
          rw [List.append_nil]
          exact h.visit (syncOne_visits hvisit)
      | cons c' refs =>
          obtain ⟨first, _, outcome, rfl, hvisit, hnext⟩ := (Program.yields_bind _ _ _ _).1 hsync
          obtain ⟨⟨⟩, rest, rfl, hrest⟩ := (Program.yields_ask _ _ _ _).1 hnext
          obtain ⟨hsynced, hignored, hfailed, hpurged⟩ := h.visit (syncOne_visits hvisit)
          have hwaited : Agrees series (now.after first) (n + unseen first)
              { r.tally outcome with delays := (r.tally outcome).delays + 1 } :=
            ⟨hsynced, hignored, hfailed, hpurged⟩
          have hall := ih hwaited hrest
          rw [Series.after_append, unseen_append, ← Nat.add_assoc]
          exact hall

end Agrees

/-- While ignore entries are removed, nothing is counted and no container is inspected. -/
theorem Removing.uncounted {present : List String} {past : List (Asked Action.Reply)} {purged : Nat}
    (h : Removing present past purged) : (∀ s : Series, s.after past = s) ∧ unseen past = 0 := by
  have hremovals : ∀ entries replies,
      (∀ s : Series, s.after (removals entries replies) = s) ∧
        unseen (removals entries replies) = 0 := by
    intro entries
    induction entries with
    | nil => exact fun _ => ⟨fun _ => rfl, rfl⟩
    | cons e entries ih =>
        intro replies
        cases replies with
        | nil => exact ⟨fun _ => rfl, rfl⟩
        | cons _ replies => exact ih replies
  cases h with
  | unlisted e => exact ⟨fun _ => rfl, rfl⟩
  | listed entries _ => exact hremovals _ _

/-- Whatever is replied, the series after a full sync that gave a report have grown by the
containers that were synced, by those that are ignored, and by the ignore entries that were
removed, as the report has them, and hold the number of listed containers. Failures have grown by
those of the report less the containers that could not be inspected although they may be there, so
that they agree with the report just when each inspection that failed found that the container is
gone. -/
theorem fullSync_counts {σ : Type} (hostId : String) (wait : Duration)
    (answer : σ → (a : Action) → a.Reply × σ) (s : σ) (series : Series) {report : FullSyncReport}
    (h : ((fullSync hostId wait).run answer s).1 = .ok report) :
    let past := (fullSync hostId wait).history answer s
    let counted := series.after past
    counted.syncs = series.syncs + report.synced ∧
    counted.syncsSkippedIgnored = series.syncsSkippedIgnored + report.ignored ∧
    counted.ignoreEntriesPurged = series.ignoreEntriesPurged + report.purged ∧
    counted.containersObserved = report.listed ∧
    counted.syncErrors + unseen past = series.syncErrors + report.failed ∧
    (counted.syncErrors = series.syncErrors + report.failed ↔
      ∀ id e, (⟨.engine (.inspect id), .error e⟩ : Asked Action.Reply) ∈ past →
        e.isNotFound = true) := by
  intro past counted
  have hyields : (fullSync hostId wait).Yields past (.ok report) :=
    h ▸ Program.yields_run answer _ s
  rcases yields_fullSync hyields with ⟨_, _, _, hfail⟩ |
    ⟨started, refs, visited, removing, ended, tallied, purged, hpast, heach, hremoving, hresult⟩
  · cases hfail
  · cases hresult
    have hstart : Agrees series series 0
        { (default : FullSyncReport) with listed := refs.length } := ⟨rfl, rfl, rfl, rfl⟩
    obtain ⟨hsynced, hignored, hfailed, hpurged⟩ := hstart.syncEach heach
    have hcounted : counted = ((series.after visited).apply
        (.fullSync (.ofFloat (ended.since started).seconds) tallied.listed)).apply
          (.purged purged) := by
      show series.after past = _
      rw [hpast]
      show series.after (visited ++ removing ++ closing hostId started ended _) = _
      rw [Series.after_append, Series.after_append, hremoving.uncounted.1]
      rfl
    have hunseen : unseen past = unseen visited := by
      rw [hpast]
      show unseen (visited ++ removing ++ closing hostId started ended _) = _
      rw [unseen_append, unseen_append, hremoving.uncounted.2]
      rfl
    rw [Nat.zero_add, ← hunseen] at hfailed
    rw [hcounted, ← unseen_eq_zero_iff]
    refine ⟨hsynced, hignored, congrArg (· + purged) hpurged, rfl, hfailed, ?_⟩
    show (series.after visited).syncErrors = series.syncErrors + tallied.failed ↔ unseen past = 0
    omega

/-! Of two listed containers, the second cannot be inspected. -/

def halfSeen (u : Unit) : (a : Action) → a.Reply × Unit
  | .engine (.list _) => (.ok [⟨"x", "web"⟩, ⟨"y", "db"⟩], u)
  | .engine (.inspect id) =>
    (if id = "x" then .ok web else .error (.unavailable "connection refused"), u)
  | .engine _ => (.error (.unavailable "connection refused"), u)
  | .central (.sync _) => (.ok .created, u)
  | .central .listIgnored => (.ok [], u)
  | .central _ => (.error .transport, u)
  | .nextEvent => (none, u)
  | .now => (.zero, u)
  | .measure => (⟨.ofFloat 0, 0, .ofFloat 0, .epoch⟩, u)
  | .subscribe | .sleep _ | .sleepUntil _ | .notice _ => ((), u)

/-- The report has a failure, and the series count none. -/
theorem failure_uncounted :
    ∃ report, ((fullSync "h1" .zero).run halfSeen ()).1 = .ok report ∧ report.failed = 1 ∧
      (Series.initial.after ((fullSync "h1" .zero).history halfSeen ())).syncErrors = 0 ∧
      (Series.initial.after ((fullSync "h1" .zero).history halfSeen ())).syncErrors ≠
        Series.initial.syncErrors + report.failed :=
  ⟨⟨2, 1, 0, 0, 1, 1, 0⟩, rfl, rfl, rfl, by decide⟩

/-- The first container is in both accounts. -/
theorem fullSync_counts_halfSeen :
    ((fullSync "h1" .zero).run halfSeen ()).1 = .ok ⟨2, 1, 0, 0, 1, 1, 0⟩ ∧
      (Series.initial.after ((fullSync "h1" .zero).history halfSeen ())).syncs = 1 ∧
      unseen ((fullSync "h1" .zero).history halfSeen ()) = 1 := by
  have hrun : ((fullSync "h1" .zero).run halfSeen ()).1 = .ok ⟨2, 1, 0, 0, 1, 1, 0⟩ := rfl
  obtain ⟨hsynced, -, -, -, -, -⟩ := fullSync_counts "h1" .zero halfSeen () Series.initial hrun
  exact ⟨hrun, hsynced, rfl⟩

end HostAgent.Reconcile
