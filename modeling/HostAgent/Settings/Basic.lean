import HostAgent.Agent
import HostAgent.Central.Session
import HostAgent.Engine.Endpoint
import HostAgent.Settings.Source
import HostAgent.Text.Quoted

/-!
# The settings of an agent

Every setting has a default, so that an agent runs without any. Settings are read
in three steps, and each has an error of its own: the sources are read, every value
is turned into what its setting wants, and the settings are checked. The parts of
the agent get theirs from here.

## Main results

* `Settings.check_eq_ok_iff`: which settings an agent runs with.
* `Settings.ofTable?_empty`: without sources every setting has its default.
-/

namespace HostAgent

structure Settings where
  apiUrl : String := "http://localhost:8080/api/v1/"
  apiToken : Option String := none
  runtimeEndpoint : Option String := none
  hostId : Option String := none
  hostName : Option String := none
  hostIp : Option String := none
  datacenter : String := HostRecord.defaultDatacenter
  healthPort : UInt16 := 9100
  /-- Between full syncs, and between reports of the use of the host. -/
  syncIntervalSecs : Nat := 30
  taskPollIntervalSecs : Nat := 5
  bulkSyncDelayMillis : Nat := 100
  eventRetryDelaySecs : Nat := 5
  stopTimeoutSecs : Nat := 10
  requestTimeoutSecs : Nat := 30
  ignoreCacheMillis : Nat := 0
  conflictRetries : Nat := 3
deriving DecidableEq, Repr, Inhabited

/-- Why an agent has no settings. -/
inductive SettingsError
  /-- A source cannot be read. -/
  | unreadable
  /-- A value does not fit its setting. -/
  | invalid
  | badUrl (found : String)
  | zero (name : String)
  | badEndpoint (found : String) (cause : EngineError)
deriving DecidableEq, Repr

namespace SettingsError

def message : SettingsError → String
  | unreadable => "Failed to read agent configuration"
  | invalid => "Invalid agent configuration"
  | badUrl found => "api_url must be an http(s) URL, got " ++ Text.quoted found
  | zero name => name ++ " must be greater than zero"
  | badEndpoint found _ => "Invalid runtime_endpoint " ++ Text.quoted found

/-- What lies behind the error. -/
def cause? : SettingsError → Option String
  | badEndpoint _ e => some e.message
  | _ => none

end SettingsError

namespace Settings

/-! ## From values -/

/-- A text setting. -/
def text? (t : SettingTable) (name default : String) : Option String :=
  match t.get? name with
  | none => some default
  | some v => v.toText?

/-- A text setting that may be absent; `null` makes it absent. -/
def optional? (t : SettingTable) (name : String) (default : Option String) :
    Option (Option String) :=
  match t.get? name with
  | none => some default
  | some .null => some none
  | some v => v.toText?.map some

/-- A number setting of so many bits. -/
def nat? (bits : Nat) (t : SettingTable) (name : String) (default : Nat) : Option Nat :=
  match t.get? name with
  | none => some default
  | some v => v.toNat? bits

/-- The settings of a table. A host without a name has that of the node it runs on. -/
def ofTable? (nodeName : Option String) (t : SettingTable) : Option Settings := do
  let d : Settings := {}
  return {
    apiUrl := ← text? t "api_url" d.apiUrl
    apiToken := ← optional? t "api_token" d.apiToken
    runtimeEndpoint := ← optional? t "runtime_endpoint" d.runtimeEndpoint
    hostId := ← optional? t "host_id" d.hostId
    hostName := ← optional? t "host_name" nodeName
    hostIp := ← optional? t "host_ip" d.hostIp
    datacenter := ← text? t "datacenter" d.datacenter
    healthPort := (← nat? 16 t "health_port" d.healthPort.toNat).toUInt16
    syncIntervalSecs := ← nat? 64 t "sync_interval_secs" d.syncIntervalSecs
    taskPollIntervalSecs := ← nat? 64 t "task_poll_interval_secs" d.taskPollIntervalSecs
    bulkSyncDelayMillis := ← nat? 64 t "bulk_sync_delay_ms" d.bulkSyncDelayMillis
    eventRetryDelaySecs := ← nat? 64 t "event_retry_delay_secs" d.eventRetryDelaySecs
    stopTimeoutSecs := ← nat? 64 t "stop_timeout_secs" d.stopTimeoutSecs
    requestTimeoutSecs := ← nat? 64 t "request_timeout_secs" d.requestTimeoutSecs
    ignoreCacheMillis := ← nat? 64 t "ignore_cache_ttl_ms" d.ignoreCacheMillis
    conflictRetries := ← nat? 32 t "conflict_retries" d.conflictRetries }

theorem ofTable?_empty (nodeName : Option String) :
    ofTable? nodeName ∅ = some { hostName := nodeName } := rfl

/-- The names of the settings. -/
def names : List String := [
  "api_url", "api_token", "runtime_endpoint", "host_id", "host_name", "host_ip", "datacenter",
  "health_port", "sync_interval_secs", "task_poll_interval_secs", "bulk_sync_delay_ms",
  "event_retry_delay_secs", "stop_timeout_secs", "request_timeout_secs", "ignore_cache_ttl_ms",
  "conflict_retries"]

/-! ## Checks -/

/-- The endpoint of the engine. -/
def endpoint (s : Settings) : Except SettingsError EngineEndpoint :=
  let found := s.runtimeEndpoint.getD ""
  (EngineEndpoint.read found).mapError (.badEndpoint found)

/-- Is the URL one of HTTP? -/
def hasHttpUrl (s : Settings) : Bool :=
  Text.startsWith "http://" s.apiUrl || Text.startsWith "https://" s.apiUrl

/-- The times that cannot be zero. -/
def times (s : Settings) : List (String × Nat) := [
  ("sync_interval_secs", s.syncIntervalSecs),
  ("task_poll_interval_secs", s.taskPollIntervalSecs),
  ("event_retry_delay_secs", s.eventRetryDelaySecs),
  ("request_timeout_secs", s.requestTimeoutSecs)]

/-- The first fault of the settings, if there is any. -/
def check (s : Settings) : Except SettingsError Unit := do
  if !s.hasHttpUrl then throw (.badUrl s.apiUrl)
  match s.times.find? (·.2 = 0) with
  | some (name, _) => throw (.zero name)
  | none =>
    let _ ← s.endpoint
    return ()

theorem check_eq_ok_iff (s : Settings) :
    s.check = .ok () ↔
      s.hasHttpUrl = true ∧ (∀ e ∈ s.times, e.2 ≠ 0) ∧ ∃ e, s.endpoint = .ok e := by
  have hfind : s.times.find? (·.2 = 0) = none ↔ ∀ e ∈ s.times, e.2 ≠ 0 := by simp
  rw [← hfind, check]
  cases s.hasHttpUrl
  · simp [bind, Except.bind, throw, throwThe, MonadExceptOf.throw]
  · cases s.times.find? (·.2 = 0) with
    | some e => simp [throw, throwThe, MonadExceptOf.throw]
    | none =>
      cases s.endpoint with
      | error e => simp [bind, Except.bind]
      | ok e => simp [bind, Except.bind, pure, Except.pure]

/-! ## From sources -/

/-- The settings of the variables that start with a name, and of a file below them. -/
def loadFrom (file? : String → Option String) (file : Option String) (start : String)
    (env : Environment) : Except SettingsError Settings := do
  let bottom ← match file with
    | none => .ok ∅
    | some name =>
      match SettingTable.ofFile? file? name with
      | some t => .ok t
      | none => .error .unreadable
  match ofTable? (env.get? "NODE_NAME") ((env.settings start).above bottom) with
  | none => throw .invalid
  | some s => do
    s.check
    return s

/-- The settings of the agent; a variable may name the file. -/
def load (file? : String → Option String) (env : Environment) : Except SettingsError Settings :=
  loadFrom file? (env.get? "AGENT_CONFIG_FILE") "AGENT" env

/-! ## The parts of the agent -/

def central (s : Settings) : CentralSettings :=
  { baseUrl := s.apiUrl
    token := s.apiToken
    requestTimeout := .ofSecs s.requestTimeoutSecs
    ignoreLifetime := .ofMillis s.ignoreCacheMillis
    conflictRetries := s.conflictRetries
    conflictBackoff := .ofMillis 100 }

def agent (s : Settings) (endpointLabel : String) : AgentSettings :=
  { overrides := ⟨s.hostId, s.hostName, s.hostIp, some s.datacenter⟩
    reconcile :=
      { syncInterval := .ofSecs s.syncIntervalSecs
        bulkDelay := .ofMillis s.bulkSyncDelayMillis
        eventRetryDelay := .ofSecs s.eventRetryDelaySecs }
    tasks :=
      { pollInterval := .ofSecs s.taskPollIntervalSecs, stopTimeoutSecs := s.stopTimeoutSecs }
    metricsInterval := .ofSecs s.syncIntervalSecs
    endpointLabel }

/-- The settings under the names that sources give them. -/
def toJson (s : Settings) : Json :=
  .ofMembers [
    ("api_url", .string s.apiUrl),
    ("api_token", .ofText? s.apiToken),
    ("runtime_endpoint", .ofText? s.runtimeEndpoint),
    ("host_id", .ofText? s.hostId),
    ("host_name", .ofText? s.hostName),
    ("host_ip", .ofText? s.hostIp),
    ("datacenter", .string s.datacenter),
    ("health_port", .nat s.healthPort.toNat),
    ("sync_interval_secs", .nat s.syncIntervalSecs),
    ("task_poll_interval_secs", .nat s.taskPollIntervalSecs),
    ("bulk_sync_delay_ms", .nat s.bulkSyncDelayMillis),
    ("event_retry_delay_secs", .nat s.eventRetryDelaySecs),
    ("stop_timeout_secs", .nat s.stopTimeoutSecs),
    ("request_timeout_secs", .nat s.requestTimeoutSecs),
    ("ignore_cache_ttl_ms", .nat s.ignoreCacheMillis),
    ("conflict_retries", .nat s.conflictRetries)]

end Settings

end HostAgent
