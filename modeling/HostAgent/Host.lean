import HostAgent.Container
import HostAgent.Net.IpAddress

/-!
# The host

What this host is to the central server: its record, made once of the facts that
the engine reports and of settings that override them, and its use of processor
and memory, measured again and again.

## Main results

* `HostRecord.id_ne_empty`: the id of a host record is never empty.
-/

namespace HostAgent

open Json (Decoder Fields always)

/-! ## Identity -/

inductive HostStatus
  | active
deriving DecidableEq, Repr

namespace HostStatus

def name : HostStatus → String
  | active => "active"

def all : List HostStatus := [active]

def decoder : Decoder HostStatus := .variant (all.map fun s => (s.name, s))

def toJson (s : HostStatus) : Json := .string s.name

end HostStatus

/-- The host as the central server keeps it. -/
structure HostRecord where
  id : String
  name : String
  ipAddress : String
  cpuCores : UInt32
  memoryBytes : UInt64
  status : HostStatus
  datacenter : String
deriving DecidableEq, Repr

/-- Facts about the host that the engine reports. -/
structure SystemInfo where
  id : String
  name : String
  cpuCores : UInt32
  memoryBytes : UInt64
deriving DecidableEq, Repr, Inhabited

/-- Settings that override the facts. -/
structure HostOverrides where
  id : Option String
  name : Option String
  ipAddress : Option String
  datacenter : Option String
deriving DecidableEq, Repr, Inhabited

namespace HostRecord

def defaultDatacenter : String := "default"

/-- A text that does not consist of blanks alone. -/
def notBlank? (text : Option String) : Option String := text.filter (Text.trim · ≠ "")

/-- The record of a host. Its name stands in for a missing id. -/
def ofFacts (info : SystemInfo) (overrides : HostOverrides) (detected : Option IpAddress) :
    HostRecord :=
  let present (s : String) : Option String := if s = "" then none else some s
  let name := ((notBlank? overrides.name).or (present info.name)).getD "unknown"
  { id := ((notBlank? overrides.id).or (present info.id)).getD name
    name
    ipAddress := ((notBlank? overrides.ipAddress).or (detected.map IpAddress.render)).getD
      "127.0.0.1"
    cpuCores := info.cpuCores
    memoryBytes := info.memoryBytes
    status := .active
    datacenter := (notBlank? overrides.datacenter).getD defaultDatacenter }

theorem notBlank?_ne_empty {text : Option String} {s : String} (h : notBlank? text = some s) :
    s ≠ "" := by
  intro he
  subst he
  obtain ⟨_, hp⟩ := Option.filter_eq_some_iff.1 h
  simp [Text.trim, Text.trimBoth] at hp

theorem id_ne_empty (info : SystemInfo) (overrides : HostOverrides)
    (detected : Option IpAddress) : (ofFacts info overrides detected).id ≠ "" := by
  simp only [ofFacts]
  cases hi : notBlank? overrides.id with
  | some s => simpa [hi] using notBlank?_ne_empty hi
  | none =>
    by_cases he : info.id = ""
    · cases hn : notBlank? overrides.name with
      | some s => simpa [hi, he, hn] using notBlank?_ne_empty hn
      | none => by_cases hm : info.name = "" <;> simp [he, hm]
    · simp [he]

def fields : Fields HostRecord :=
  .mk <$> Fields.required "id" Decoder.string
    <*> Fields.required "name" Decoder.string
    <*> Fields.required "ip_address" Decoder.string
    <*> Fields.required "cpu_cores" Decoder.uint32
    <*> Fields.required "memory_bytes" Decoder.uint64
    <*> Fields.required "status" HostStatus.decoder
    <*> Fields.required "datacenter" Decoder.string

def decoder : Decoder HostRecord := fields.decode

def toJson (h : HostRecord) : Json :=
  .record [
    always "id" (.string h.id),
    always "name" (.string h.name),
    always "ip_address" (.string h.ipAddress),
    always "cpu_cores" (.nat h.cpuCores.toNat),
    always "memory_bytes" (.nat h.memoryBytes.toNat),
    always "status" h.status.toJson,
    always "datacenter" (.string h.datacenter)]

end HostRecord

/-! ## Use of processor and memory -/

/-- A measurement of the host. -/
structure HostMetrics where
  cpuPercent : Binary64
  memoryBytes : UInt64
  memoryPercent : Binary64
  timestamp : Timestamp
deriving DecidableEq, Repr

namespace HostMetrics

def fields : Fields HostMetrics :=
  .mk <$> Fields.required "cpu_percent" Decoder.float
    <*> Fields.required "memory_bytes" Decoder.uint64
    <*> Fields.required "memory_percent" Decoder.float
    <*> Fields.required "timestamp" Timestamp.decoder

def decoder : Decoder HostMetrics := fields.decode

def toJson (m : HostMetrics) : Json :=
  .record [
    always "cpu_percent" (.float m.cpuPercent),
    always "memory_bytes" (.nat m.memoryBytes.toNat),
    always "memory_percent" (.float m.memoryPercent),
    always "timestamp" m.timestamp.toJson]

end HostMetrics

/-! ## Measuring -/

/-- Memory of the host, in bytes. -/
structure MemoryUsage where
  total : UInt64
  available : UInt64
deriving DecidableEq, Repr

namespace MemoryUsage

/-- What is not available; never below zero. -/
def used (m : MemoryUsage) : UInt64 :=
  if m.available ≤ m.total then m.total - m.available else 0

/-- The used share of the memory; of no memory nothing is used. -/
def percent (m : MemoryUsage) : Float :=
  if m.total = 0 then 0 else m.used.toFloat / m.total.toFloat * 100

end MemoryUsage

/-- The mean use of the processor cores, between 0 and 100; without cores it is 0. -/
def averageCpu (cores : List Float32) : Float :=
  if cores.isEmpty then 0
  else
    let mean := (cores.map Float32.toFloat).foldl (· + ·) (-0.0) / cores.length.toUInt64.toFloat
    if mean < 0 then 0 else if mean > 100 then 100 else mean

/-- The measurement at a time. -/
def HostMetrics.measured (cpuPercent : Float) (memory : MemoryUsage) (timestamp : Timestamp) :
    HostMetrics :=
  { cpuPercent := .ofFloat cpuPercent
    memoryBytes := memory.used
    memoryPercent := .ofFloat memory.percent
    timestamp }

end HostAgent
