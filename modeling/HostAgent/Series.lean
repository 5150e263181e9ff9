import HostAgent.Decimal.Shortest

/-!
# Series

Numbers about the work of the agent that are counted from its start and read
from outside: counters, one histogram of the durations of full syncs, and the
number of containers seen last. `Series.text` is the exposition format, families
in the order of their names.
-/

namespace HostAgent

/-! ## The histogram -/

/-- Observations counted by upper bounds; each bound is inclusive. -/
structure Histogram where
  /-- The number of observations up to each bound. -/
  upTo : List (Float × Nat)
  count : Nat
  sum : Float
deriving Inhabited

namespace Histogram

def empty (bounds : List Float) : Histogram := ⟨bounds.map fun b => (b, 0), 0, 0⟩

def observe (x : Float) (h : Histogram) : Histogram :=
  { upTo := h.upTo.map fun b => if x ≤ b.1 then (b.1, b.2 + 1) else b
    count := h.count + 1
    sum := h.sum + x }

end Histogram

/-! ## The series -/

structure Series where
  syncs : Nat
  syncErrors : Nat
  syncsSkippedIgnored : Nat
  fullSyncSeconds : Histogram
  containersObserved : Nat
  ignoreEntriesPurged : Nat
  streamReconnects : Nat
  tasksExecuted : Nat
  taskFailures : Nat
  pushErrors : Nat
deriving Inhabited

/-- Something that is counted. -/
inductive SeriesChange
  | synced
  | syncFailed
  | syncIgnored
  | fullSync (seconds : Binary64) (listed : Nat)
  | purged (entries : Nat)
  | reconnected
  | taskExecuted (success : Bool)
  | pushFailed
deriving DecidableEq, Repr

namespace Series

/-- Upper bounds of the durations of full syncs, in seconds. -/
def fullSyncBounds : List Float := [0.05, 0.1, 0.25, 0.5, 1, 2.5, 5, 10, 30, 60, 120]

def initial : Series :=
  { syncs := 0, syncErrors := 0, syncsSkippedIgnored := 0
    fullSyncSeconds := .empty fullSyncBounds
    containersObserved := 0, ignoreEntriesPurged := 0, streamReconnects := 0
    tasksExecuted := 0, taskFailures := 0, pushErrors := 0 }

def apply (s : Series) : SeriesChange → Series
  | .synced => { s with syncs := s.syncs + 1 }
  | .syncFailed => { s with syncErrors := s.syncErrors + 1 }
  | .syncIgnored => { s with syncsSkippedIgnored := s.syncsSkippedIgnored + 1 }
  | .fullSync seconds listed =>
    { s with fullSyncSeconds := s.fullSyncSeconds.observe seconds.toFloat
             containersObserved := listed }
  | .purged entries => { s with ignoreEntriesPurged := s.ignoreEntriesPurged + entries }
  | .reconnected => { s with streamReconnects := s.streamReconnects + 1 }
  | .taskExecuted success =>
    { s with tasksExecuted := s.tasksExecuted + 1
             taskFailures := s.taskFailures + if success then 0 else 1 }
  | .pushFailed => { s with pushErrors := s.pushErrors + 1 }

/-! ## Families -/

/-- The samples of a family. -/
inductive Samples
  | counter (value : Nat)
  | gauge (value : Nat)
  | histogram (value : Histogram)

structure Family where
  name : String
  help : String
  samples : Samples

/-- The families without the common start of their names, in the order of names. -/
def families (s : Series) : List Family := [
  ⟨"containers_observed", "Containers listed by the runtime on the last full sync",
    .gauge s.containersObserved⟩,
  ⟨"event_stream_reconnects_total", "Runtime event stream resubscriptions",
    .counter s.streamReconnects⟩,
  ⟨"full_sync_duration_seconds", "Wall time of a full discovery and sync pass",
    .histogram s.fullSyncSeconds⟩,
  ⟨"ignore_entries_purged_total", "Stale ignore-list entries removed by full sync",
    .counter s.ignoreEntriesPurged⟩,
  ⟨"metrics_push_errors_total", "Host metrics pushes that failed", .counter s.pushErrors⟩,
  ⟨"sync_errors_total", "Container syncs that failed and will be retried",
    .counter s.syncErrors⟩,
  ⟨"syncs_skipped_ignored_total", "Container syncs suppressed by the ignore list",
    .counter s.syncsSkippedIgnored⟩,
  ⟨"syncs_total", "Container syncs pushed to the central API", .counter s.syncs⟩,
  ⟨"task_failures_total", "Tasks whose result reported failure", .counter s.taskFailures⟩,
  ⟨"tasks_executed_total", "Tasks executed against the local runtime",
    .counter s.tasksExecuted⟩]

def floatText (x : Float) : String := Decimal.renderPlain (.ofFloat x)

/-- The lines of a family: what it is, then its samples. -/
def Family.lines (f : Family) : List String :=
  let name := "fleet_agent_" ++ f.name
  let head (kind : String) : List String :=
    ["# HELP " ++ name ++ " " ++ f.help, "# TYPE " ++ name ++ " " ++ kind]
  match f.samples with
  | .counter value => head "counter" ++ [name ++ " " ++ toString value]
  | .gauge value => head "gauge" ++ [name ++ " " ++ toString value]
  | .histogram h =>
    let bucket (bound : String) (count : Nat) : String :=
      name ++ "_bucket\x7ble=\"" ++ bound ++ "\"\x7d " ++ toString count
    head "histogram" ++ h.upTo.map (fun b => bucket (floatText b.1) b.2) ++
      [bucket "+Inf" h.count, name ++ "_sum " ++ floatText h.sum,
        name ++ "_count " ++ toString h.count]

/-- The exposition text. -/
def text (s : Series) : String :=
  String.join ((s.families.flatMap Family.lines).map (· ++ "\n"))

end Series

end HostAgent
