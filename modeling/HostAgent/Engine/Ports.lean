import HostAgent.Container
import HostAgent.CreateRequest
import HostAgent.Decimal.Integer

/-!
# Port bindings

The engine lists the ports of a container as a map: a key such as `80/tcp` names
a port of the container, and its bindings name ports of the host. This module
writes such a map for a new container, and reads the mappings out of the map of
an existing one. The mappings come in a fixed order, each once, whatever the
order of the map and of its bindings is.

## Main results

* `PortMapping.mem_insert`: putting a mapping in adds it and keeps all others.
-/

namespace HostAgent

open Json (Decoder Fields)

/-- A port of the host, as the engine writes it. -/
structure PortBinding where
  hostIp : Option String
  hostPort : Option String
deriving DecidableEq, Repr

namespace PortBinding

def fields : Fields PortBinding :=
  .mk <$> Fields.optionalNamed "HostIp" Decoder.string
    <*> Fields.optionalNamed "HostPort" Decoder.string

def decoder : Decoder PortBinding := fields.decodeObject

def toJson (b : PortBinding) : Json :=
  .record [
    Json.whenSome "HostIp" .string b.hostIp,
    Json.whenSome "HostPort" .string b.hostPort]

end PortBinding

/-! ## Ports of a new container -/

/-- The key of a port of a container. -/
def PortBindingRequest.key (p : PortBindingRequest) : String :=
  toString p.containerPort.toNat ++ "/" ++ p.protocol

def PortBindingRequest.binding (p : PortBindingRequest) : PortBinding :=
  ⟨some p.hostIp, p.hostPort.map fun n => toString n.toNat⟩

/-- The map with one more binding at the end of its key. -/
def addBinding (m : KeyMap (List PortBinding)) (p : PortBindingRequest) :
    KeyMap (List PortBinding) :=
  m.insert p.key ((m.get? p.key).getD [] ++ [p.binding])

/-- The bindings of requested ports by key, those of one key in order. -/
def portBindings (ports : List PortBindingRequest) : KeyMap (List PortBinding) :=
  ports.foldl addBinding ∅

/-! ## Ports of an existing container -/

namespace PortMapping

/-- Is a mapping before another? The port of the container counts first, then the port of the
host, then the protocol. -/
def isBefore (a b : PortMapping) : Bool :=
  a.containerPort < b.containerPort ||
    (a.containerPort == b.containerPort &&
      (a.hostPort < b.hostPort ||
        (a.hostPort == b.hostPort && decide (a.protocol < b.protocol))))

/-- Put a mapping at its place, unless it is there already. -/
def insert (m : PortMapping) : List PortMapping → List PortMapping
  | [] => [m]
  | n :: ns =>
    if m = n then n :: ns
    else if m.isBefore n then m :: n :: ns
    else n :: insert m ns

@[simp] theorem mem_insert {m n : PortMapping} {ms : List PortMapping} :
    n ∈ insert m ms ↔ n = m ∨ n ∈ ms := by
  induction ms with
  | nil => simp [insert]
  | cons k ks ih =>
    unfold insert
    split
    · rename_i h
      subst h
      simp
    · split
      · simp
      · simp only [List.mem_cons, ih]
        constructor
        · rintro (h | h | h)
          · exact .inr (.inl h)
          · exact .inl h
          · exact .inr (.inr h)
        · rintro (h | h | h)
          · exact .inr (.inl h)
          · exact .inl h
          · exact .inr (.inr h)

end PortMapping

/-- A port number in digits. -/
def portNumber? (s : String) : Option UInt16 := (Decimal.natBelow? 16 s).map Nat.toUInt16

/-- Port and protocol of a key. -/
def keyParts (key : String) : String × String :=
  match Text.cutAt '/' key.toList with
  | (port, some protocol) => (String.ofList port, String.ofList protocol)
  | (_, none) => (key, PortSpec.defaultProtocol)

/-- The mappings of a key and its bindings; those without a number are left out. -/
def mappingsOf (key : String) (bindings : Option (List PortBinding)) : List PortMapping :=
  match portNumber? (keyParts key).1 with
  | none => []
  | some containerPort =>
    ((bindings.getD []).filterMap fun b => b.hostPort.bind portNumber?).map fun hostPort =>
      ⟨hostPort, containerPort, (keyParts key).2⟩

/-- The mappings of a map of ports, in order, each once. -/
def portMappings (ports : List (String × Option (List PortBinding))) : List PortMapping :=
  (ports.flatMap fun p => mappingsOf p.1 p.2).foldr PortMapping.insert []

end HostAgent
