import HostAgent.Reconcile.Action
import HostAgent.Work.Action

/-!
# Syncing containers

The central server learns what the engine knows. One container is synced by
inspecting it and sending its record; a container that is gone by then is no
error. A full sync does this for every container and then removes the ignore
entries of containers that do not exist. Nothing is kept about a container, so
that the last successful write counts, whoever made it.

## Main results

* `FullSyncReport.tally_total`: a tally counts every container once.
-/

namespace HostAgent

open Work (engine central sleep now count log say)

/-- What happened to one container. -/
inductive SyncResult
  | synced (outcome : SyncOutcome)
  /-- The container was gone when it was inspected. -/
  | vanished
deriving DecidableEq, Repr

def SyncResult.name : SyncResult → String
  | synced outcome => outcome.name
  | vanished => "vanished"

/-- Waits of the reconciler. -/
structure ReconcileSettings where
  /-- Between full syncs. -/
  syncInterval : Duration
  /-- Between the containers of a full sync. -/
  bulkDelay : Duration
  /-- Before a broken subscription is opened again. -/
  eventRetryDelay : Duration
deriving DecidableEq, Repr, Inhabited

namespace FullSyncReport

/-- The report with one more container. -/
def tally (r : FullSyncReport) : Except SyncError SyncResult → FullSyncReport
  | .ok (.synced .ignored) => { r with ignored := r.ignored + 1 }
  | .ok (.synced _) => { r with synced := r.synced + 1 }
  | .ok .vanished => { r with vanished := r.vanished + 1 }
  | .error _ => { r with failed := r.failed + 1 }

/-- The containers in the report. -/
def total (r : FullSyncReport) : Nat := r.synced + r.ignored + r.vanished + r.failed

theorem tally_total (r : FullSyncReport) (outcome : Except SyncError SyncResult) :
    (r.tally outcome).total = r.total + 1 := by
  unfold tally total
  split <;> simp <;> omega

end FullSyncReport

namespace Reconcile

/-! ## One container -/

/-- Inspect a container and send its record. -/
def syncOne (hostId id : String) : Work (Except SyncError SyncResult) := do
  match ← engine (.inspect id) with
  | .error e => return if e.isNotFound then .ok .vanished else .error e
  | .ok detail =>
    match ← central (.sync (detail.record hostId)) with
    | .error e =>
      count .syncFailed
      return .error e
    | .ok outcome =>
      count (if outcome = .ignored then .syncIgnored else .synced)
      return .ok (.synced outcome)

/-- A container does not exist any more: neither record nor ignore entry remains. Both are tried;
of two errors the first counts. -/
def forget (id : String) : Work (Except CentralError Unit) := do
  let deleted ← central (.delete id)
  let cleared ← central (.removeIgnored id)
  return deleted.bind fun _ => cleared

/-- Do what an event asks for. -/
def handle (hostId : String) (e : LifecycleEvent) : Work (Except SyncError Unit) := do
  match EventAction.ofAction e.action with
  | .resync clearIgnore =>
    if clearIgnore then
      let _ ← central (.removeIgnored e.containerId)
    return (← syncOne hostId e.containerId).map fun _ => ()
  | .gone => return (← forget e.containerId).mapError .central
  | .ignore => return .ok ()

/-! ## All containers -/

/-- Sync listed containers one after the other, with a wait between two. -/
def syncEach (hostId : String) (wait : Duration) :
    List ContainerRef → FullSyncReport → Work FullSyncReport
  | [], r => return r
  | [c], r => return r.tally (← syncOne hostId c.id)
  | c :: cs, r => do
    let r := r.tally (← syncOne hostId c.id)
    sleep wait
    syncEach hostId wait cs { r with delays := r.delays + 1 }

/-- Remove ignore entries; the number of those removed. -/
def removeEntries : List IgnoreEntry → Work Nat
  | [] => return 0
  | e :: es => do
    let removed ← central (.removeIgnored e.containerId)
    let rest ← removeEntries es
    return (if removed.isOk then 1 else 0) + rest

/-- Remove the ignore entries of containers that are not present. -/
def purge (present : List String) : Work Nat := do
  match ← central .listIgnored with
  | .error _ => return 0
  | .ok entries => removeEntries (entries.filter fun e => !present.contains e.containerId)

/-- Sync every container and remove stale ignore entries. -/
def fullSync (hostId : String) (wait : Duration) : Work (Except SyncError FullSyncReport) := do
  let started ← now
  match ← engine (.list true) with
  | .error e => return .error e
  | .ok containers =>
    let none : FullSyncReport := { (default : FullSyncReport) with listed := containers.length }
    let report ← syncEach hostId wait containers none
    let purged ← purge (containers.map ContainerRef.id)
    let report := { report with purged }
    let elapsed := (← now).since started
    count (.fullSync (.ofFloat elapsed.seconds) report.listed)
    count (.purged purged)
    log hostId (.fullSync report elapsed.millis)
    return .ok report

end Reconcile

end HostAgent
