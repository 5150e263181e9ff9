import HostAgent.Json.Decode
import HostAgent.Json.Encode
import HostAgent.Time.Reading

/-!
# Containers

What is known of a container: the detail that inspecting it yields, and the
record of it that the central server keeps. The engine describes the state of a
container by flags that do not exclude each other; `StateFlags.status` makes one
status of them, in the order running, paused, restarting, dead. A container with
none of the flags is stopped, and no flags give `unknown`.

## Main results

* `StateFlags.status_ne_unknown`: the status of flags is always known.
* `ContainerRecord.describes_iff`: which record describes a container, field by field.
-/

namespace HostAgent

open Json (Decoder Fields always whenSome)

/-! ## Status -/

inductive ContainerStatus
  | running
  | paused
  | restarting
  | exited
  | stopped
  | unknown
deriving DecidableEq, Repr

namespace ContainerStatus

def name : ContainerStatus → String
  | running => "running"
  | paused => "paused"
  | restarting => "restarting"
  | exited => "exited"
  | stopped => "stopped"
  | unknown => "unknown"

def all : List ContainerStatus := [running, paused, restarting, exited, stopped, unknown]

def decoder : Decoder ContainerStatus := .variant (all.map fun s => (s.name, s))

def toJson (s : ContainerStatus) : Json := .string s.name

end ContainerStatus

/-- The state of a container in the words of the engine. -/
structure StateFlags where
  running : Bool
  paused : Bool
  restarting : Bool
  dead : Bool
deriving DecidableEq, Repr, Inhabited

namespace StateFlags

/-- No flag is set. -/
def none : StateFlags := ⟨false, false, false, false⟩

/-- The flag of a running container alone. -/
def onlyRunning : StateFlags := { none with running := true }

def status (f : StateFlags) : ContainerStatus :=
  if f.running then .running
  else if f.paused then .paused
  else if f.restarting then .restarting
  else if f.dead then .exited
  else .stopped

theorem status_ne_unknown (f : StateFlags) : f.status ≠ .unknown := by
  obtain ⟨r, p, s, d⟩ := f
  cases r <;> cases p <;> cases s <;> cases d <;> decide

/-- The status that flags show. The first flag that is set decides, in their order. -/
inductive Shows : StateFlags → ContainerStatus → Prop
  | running (paused restarting dead : Bool) : Shows ⟨true, paused, restarting, dead⟩ .running
  | paused (restarting dead : Bool) : Shows ⟨false, true, restarting, dead⟩ .paused
  | restarting (dead : Bool) : Shows ⟨false, false, true, dead⟩ .restarting
  | dead : Shows ⟨false, false, false, true⟩ .exited
  | unset : Shows ⟨false, false, false, false⟩ .stopped

theorem shows_iff (f : StateFlags) (s : ContainerStatus) : f.Shows s ↔ s = f.status := by
  constructor
  · rintro (_ | _ | _ | _ | _) <;> rfl
  · rintro rfl
    obtain ⟨_ | _, _ | _, _ | _, _ | _⟩ := f <;> constructor

end StateFlags

/-! ## Ports -/

/-- A port of the host that leads to a port of a container. -/
structure PortMapping where
  hostPort : UInt16
  containerPort : UInt16
  protocol : String
deriving DecidableEq, Repr

namespace PortMapping

def fields : Fields PortMapping :=
  .mk <$> Fields.required "host_port" Decoder.uint16
    <*> Fields.required "container_port" Decoder.uint16
    <*> Fields.required "protocol" Decoder.string

def decoder : Decoder PortMapping := fields.decode

def toJson (p : PortMapping) : Json :=
  .record [
    always "host_port" (.nat p.hostPort.toNat),
    always "container_port" (.nat p.containerPort.toNat),
    always "protocol" (.string p.protocol)]

end PortMapping

/-! ## Detail and record -/

/-- A container in a listing. -/
structure ContainerRef where
  id : String
  name : String
deriving DecidableEq, Repr

/-- What inspecting a container yields. -/
structure ContainerDetail where
  id : String
  name : String
  image : String
  state : StateFlags
  ports : List PortMapping
  env : KeyMap String
  createdAt : Option Timestamp
deriving DecidableEq, Repr

/-- A container as the central server keeps it. -/
structure ContainerRecord where
  id : String
  name : String
  image : String
  status : ContainerStatus
  hostId : String
  ports : List PortMapping
  env : KeyMap String
  createdAt : Option Timestamp
deriving DecidableEq, Repr

def ContainerDetail.status (d : ContainerDetail) : ContainerStatus := d.state.status

/-- The record of a container on a host. -/
def ContainerDetail.record (d : ContainerDetail) (hostId : String) : ContainerRecord :=
  { d with status := d.status, hostId }

/-- A record says of a container what inspecting it has yielded, and that it is on a host. -/
structure ContainerRecord.Describes (r : ContainerRecord) (d : ContainerDetail)
    (hostId : String) : Prop where
  id : r.id = d.id
  name : r.name = d.name
  image : r.image = d.image
  status : d.state.Shows r.status
  hostId : r.hostId = hostId
  ports : r.ports = d.ports
  env : r.env = d.env
  createdAt : r.createdAt = d.createdAt

theorem ContainerRecord.describes_iff (r : ContainerRecord) (d : ContainerDetail)
    (hostId : String) : r.Describes d hostId ↔ r = d.record hostId := by
  constructor
  · rintro ⟨hid, hname, himage, hstatus, hhost, hports, henv, hcreated⟩
    cases r
    rw [StateFlags.shows_iff] at hstatus
    simp_all [ContainerDetail.record, ContainerDetail.status]
  · rintro rfl
    exact ⟨rfl, rfl, rfl, (StateFlags.shows_iff _ _).2 rfl, rfl, rfl, rfl, rfl⟩

def Timestamp.decoder : Decoder Timestamp := Decoder.string.filterMap Timestamp.read?

def Timestamp.toJson (t : Timestamp) : Json := .string t.render

namespace ContainerRecord

def fields : Fields ContainerRecord :=
  .mk <$> Fields.required "id" Decoder.string
    <*> Fields.required "name" Decoder.string
    <*> Fields.required "image" Decoder.string
    <*> Fields.required "status" ContainerStatus.decoder
    <*> Fields.required "host_id" Decoder.string
    <*> Fields.withDefault "ports" (.list PortMapping.decoder) []
    <*> Fields.withDefault "env" (.keyMap .string) ∅
    <*> Fields.optionalNamed "created_at" Timestamp.decoder

def decoder : Decoder ContainerRecord := fields.decode

def toJson (r : ContainerRecord) : Json :=
  .record [
    always "id" (.string r.id),
    always "name" (.string r.name),
    always "image" (.string r.image),
    always "status" r.status.toJson,
    always "host_id" (.string r.hostId),
    always "ports" (.array (r.ports.map PortMapping.toJson)),
    always "env" (.ofKeyMap .string r.env),
    whenSome "created_at" Timestamp.toJson r.createdAt]

end ContainerRecord

/-! ## Events -/

/-- Something that happened to a container. -/
structure LifecycleEvent where
  action : String
  containerId : String
  name : Option String := none
  time : Option Int := none
deriving DecidableEq, Repr

end HostAgent
