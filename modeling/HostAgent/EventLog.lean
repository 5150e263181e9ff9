import HostAgent.Decimal.Power
import HostAgent.Json.Encode
import HostAgent.Task
import HostAgent.Text.Quoted

/-!
# The event log

What the agent logs about itself in a form that other programs read: each entry
has a level, an `event` field that names it, further fields, and a fixed text.
Every entry carries the id of the host.
-/

namespace HostAgent

/-- Tally of a full sync. -/
structure FullSyncReport where
  listed : Nat
  synced : Nat
  ignored : Nat
  vanished : Nat
  failed : Nat
  /-- Waits between two containers. -/
  delays : Nat
  /-- Ignore entries that were removed. -/
  purged : Nat
deriving DecidableEq, Repr, Inhabited

def FullSyncReport.toJson (r : FullSyncReport) : Json :=
  .ofMembers [
    ("listed", .nat r.listed), ("synced", .nat r.synced), ("ignored", .nat r.ignored),
    ("vanished", .nat r.vanished), ("failed", .nat r.failed), ("delays", .nat r.delays),
    ("purged", .nat r.purged)]

/-- Something that is logged. -/
inductive LogEvent
  | started (version endpoint : String)
  | shutdown (reason : String)
  | hostRegistered (name ipAddress : String)
  | hostUnregistered (name : String)
  | fullSync (report : FullSyncReport) (durationMs : Nat)
  | taskCompleted (taskId type : String) (success : Bool) (containerId : Option String)
      (message : String)
  | streamReconnect (reason : String) (delaySecs : Nat)
deriving DecidableEq, Repr

inductive LogLevel
  | info
  | warn
deriving DecidableEq, Repr

namespace LogLevel

def name : LogLevel → String
  | info => "INFO"
  | warn => "WARN"

end LogLevel

/-- A line of the log. The text is fixed, the fields say what happened. -/
structure LogEntry where
  level : LogLevel
  text : String
  fields : List (String × Json)
deriving DecidableEq, Repr

/-- The entry as it is written. A field that is named like the text hides it. -/
def LogEntry.toJson (e : LogEntry) : Json :=
  .ofMembers [
    ("level", .string e.level.name),
    ("fields", .ofMembers (("message", .string e.text) :: e.fields))]

namespace LogEvent

def level : LogEvent → LogLevel
  | started .. | shutdown _ | hostRegistered .. | fullSync .. => .info
  | hostUnregistered _ | streamReconnect .. => .warn
  | taskCompleted _ _ success _ _ => if success then .info else .warn

/-- The name of the event. -/
def name : LogEvent → String
  | started .. => "agent_started"
  | shutdown _ => "agent_shutdown"
  | hostRegistered .. | hostUnregistered _ => "host_registered"
  | fullSync .. => "full_sync_complete"
  | taskCompleted .. => "task_completed"
  | streamReconnect .. => "event_stream_reconnect"

def text : LogEvent → String
  | started .. => "Fleet agent started"
  | shutdown _ => "Fleet agent shutting down"
  | hostRegistered .. => "Host registered with central API"
  | hostUnregistered _ => "Host registration failed, continuing unregistered"
  | fullSync .. => "Full sync complete"
  | taskCompleted _ _ success _ _ => if success then "Task completed" else "Task failed"
  | streamReconnect .. => "Runtime event stream interrupted, resubscribing"

/-- The fields besides the name of the event and the id of the host. -/
def details : LogEvent → List (String × Json)
  | started version endpoint =>
    [("agent_version", .string version), ("runtime_endpoint", .string endpoint)]
  | shutdown reason => [("reason", .string reason)]
  | hostRegistered name ip => [("host_name", .string name), ("ip_address", .string ip)]
  | hostUnregistered name => [("host_name", .string name), ("registered", .bool false)]
  | fullSync r duration =>
    [("listed", .nat r.listed), ("synced", .nat r.synced), ("ignored", .nat r.ignored),
      ("vanished", .nat r.vanished), ("failed", .nat r.failed), ("purged", .nat r.purged),
      ("duration_ms", .nat (duration % twoPow 64))]
  | taskCompleted taskId type success containerId message =>
    [("task_id", .string taskId), ("task_type", .string type),
      ("container_id", .string (Text.quotedOption containerId)), ("success", .bool success),
      ("message", .string message)]
  | streamReconnect reason delay =>
    [("reason", .string reason), ("delay_secs", .nat delay)]

/-- The entry that the agent of a host writes. -/
def entry (hostId : String) (e : LogEvent) : LogEntry :=
  { level := e.level
    text := e.text
    fields := ("event", .string e.name) :: ("host_id", .string hostId) :: e.details }

end LogEvent

end HostAgent
