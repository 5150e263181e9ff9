import Mathlib.Data.List.Induction
import HostAgent.Engine.CreateBody
import HostAgent.Proofs.Engine.Mappings
import HostAgent.Proofs.Json.Stability

/-!
# Published ports come back

The ports of a spec are given to the engine as a map from keys to bindings. Every
port adds one binding at the end of those of its key, so none is lost and none is
merged with another, whatever ports repeat. A key is read as it is written: the
number of the port has no slash, so that the first slash of a key stands behind
it, even if the protocol has slashes of its own. Hence the mappings that are read
out of the map are those of the ports with a port of the host.

## Main results

* `get?_portBindings`: the bindings of a key.
* `mem_portMappings_portBindings`: the mappings of a map of bindings.
* `ContainerSpec.ports_come_back`: the ports of a spec in the request, and read back from it.
-/

namespace HostAgent

/-! ## Members of a record -/

namespace Json

theorem get?_ofMembers (key : String) (members : List (String × Json)) :
    (ofMembers members).get? key = (KeyMap.ofList members).get? key := by
  rw [ofMembers_eq]
  rfl

/-- Of two members with one name, the later is found. -/
theorem get?_record_cons (key : String) (member : List (String × Json))
    (members : List (List (String × Json))) :
    (record (member :: members)).get? key =
      ((record members).get? key).or ((ofMembers member).get? key) := by
  rw [record, record, get?_ofMembers, get?_ofMembers, get?_ofMembers, KeyMap.get?_ofList,
    KeyMap.get?_ofList, KeyMap.get?_ofList, List.flatten_cons, List.reverse_append,
    List.find?_append]
  cases (members.flatten.reverse.find? (·.1 = key)) <;> rfl

theorem get?_record_nil (key : String) : (record []).get? key = none := rfl

theorem get?_always (key name : String) (value : Json) :
    (ofMembers (always name value)).get? key = if key = name then some value else none := rfl

theorem get?_whenSome {α : Type} (key name : String) (encode : α → Json) (a : Option α) :
    (ofMembers (whenSome name encode a)).get? key = if key = name then a.map encode else none := by
  cases a with
  | none => exact (ite_self none).symm
  | some a => rfl

end Json

/-! ## Bindings by key -/

/-- The bindings of the ports with a key, in the order of the ports. -/
def bindingsOf (ports : List PortBindingRequest) (key : String) : List PortBinding :=
  (ports.filter fun p => p.key = key).map PortBindingRequest.binding

theorem bindingsOf_ne_nil_iff {ports : List PortBindingRequest} {key : String} :
    bindingsOf ports key ≠ [] ↔ ∃ p ∈ ports, p.key = key := by
  simp [bindingsOf]

theorem get?_portBindings (ports : List PortBindingRequest) (key : String) :
    (portBindings ports).get? key =
      if bindingsOf ports key = [] then none else some (bindingsOf ports key) := by
  induction ports using List.reverseRecOn with
  | nil => rfl
  | append_singleton ports p ih =>
      have hadd : portBindings (ports ++ [p]) = addBinding (portBindings ports) p := by
        rw [portBindings, List.foldl_append]
        rfl
      rw [hadd, addBinding, KeyMap.get?_insert]
      by_cases hkey : key = p.key
      · subst hkey
        have hmore : bindingsOf (ports ++ [p]) p.key = bindingsOf ports p.key ++ [p.binding] := by
          simp [bindingsOf]
        rw [if_pos rfl, hmore, if_neg (by simp), ih]
        split
        · rename_i hnone
          rw [hnone]
          rfl
        · rfl
      · have hsame : bindingsOf (ports ++ [p]) key = bindingsOf ports key := by
          simp [bindingsOf, Ne.symm hkey]
        rw [if_neg hkey, ih, hsame]

theorem get?_portBindings_eq_some_iff {ports : List PortBindingRequest} {key : String}
    {bs : List PortBinding} :
    (portBindings ports).get? key = some bs ↔ bs = bindingsOf ports key ∧ bs ≠ [] := by
  rw [get?_portBindings]
  constructor
  · intro h
    split at h
    · cases h
    · rename_i hsome
      obtain rfl := Option.some.inj h
      exact ⟨rfl, hsome⟩
  · rintro ⟨rfl, hsome⟩
    rw [if_neg hsome]

theorem mem_keys_portBindings {ports : List PortBindingRequest} {key : String} :
    key ∈ (portBindings ports).keys ↔ ∃ p ∈ ports, p.key = key := by
  simp only [KeyMap.mem_keys_iff, get?_portBindings_eq_some_iff, exists_eq_left,
    bindingsOf_ne_nil_iff]

/-! ## Mappings of bindings -/

namespace PortBindingRequest

/-- The mapping that a requested port asks for, if it names a port of the host. -/
def mapping? (p : PortBindingRequest) : Option PortMapping :=
  p.hostPort.map fun hostPort => ⟨hostPort, p.containerPort, p.protocol⟩

theorem keyParts_key (p : PortBindingRequest) :
    keyParts p.key = (toString p.containerPort.toNat, p.protocol) := by
  have hwritten : (toString p.containerPort.toNat).toList =
      Nat.toDigits 10 p.containerPort.toNat := Nat.toList_repr
  refine keyParts_append ?_ p.protocol
  rw [hwritten]
  intro hslash
  exact absurd (Nat.isDigit_of_mem_toDigits (by decide) (by decide) hslash) (by decide)

theorem hostPort_binding (p : PortBindingRequest) :
    p.binding.hostPort.bind portNumber? = p.hostPort := by
  cases h : p.hostPort with
  | none => rw [binding, h]; rfl
  | some n =>
      rw [binding, h]
      exact portNumber?_toString n

end PortBindingRequest

/-- Under the key of a port, each binding with a port of the host gives a mapping. -/
theorem mem_mappingsOf_bindings {ports : List PortBindingRequest} {key : String} {m : PortMapping} :
    m ∈ mappingsOf key (some (bindingsOf ports key)) ↔
      ∃ p ∈ ports, p.key = key ∧ p.mapping? = some m := by
  rw [mem_mappingsOf]
  constructor
  · rintro ⟨hnumber, hprotocol, b, hb, hhost⟩
    obtain ⟨p, hp, rfl⟩ := List.mem_map.1 hb
    obtain ⟨hmem, hkey⟩ := List.mem_filter.1 hp
    obtain rfl : p.key = key := by simpa using hkey
    rw [p.keyParts_key, portNumber?_toString] at hnumber
    rw [p.keyParts_key] at hprotocol
    rw [p.hostPort_binding] at hhost
    have hnumber' : p.containerPort = m.containerPort := Option.some.inj hnumber
    have hprotocol' : p.protocol = m.protocol := hprotocol
    refine ⟨p, hmem, rfl, ?_⟩
    rw [PortBindingRequest.mapping?, hhost, hnumber', hprotocol']
    rfl
  · rintro ⟨p, hp, rfl, hmapping⟩
    obtain ⟨host, hhost, rfl⟩ := Option.map_eq_some_iff.1 hmapping
    rw [p.keyParts_key, portNumber?_toString]
    refine ⟨rfl, rfl, p.binding, ?_, p.hostPort_binding.trans hhost⟩
    exact List.mem_map.2 ⟨p, List.mem_filter.2 ⟨hp, by simp⟩, rfl⟩

/-- In whatever order the map is gone through, its mappings are those of the ports with a port of
the host. -/
theorem mem_portMappings_portBindings {ports : List PortBindingRequest}
    {es : List (String × Option (List PortBinding))}
    (h : es.Perm ((portBindings ports).entries.map fun e => (e.1, some e.2))) {m : PortMapping} :
    m ∈ portMappings es ↔ ∃ p ∈ ports, p.mapping? = some m := by
  rw [mem_portMappings]
  constructor
  · rintro ⟨e, he, hm⟩
    obtain ⟨⟨key, bs⟩, hentry, rfl⟩ := List.mem_map.1 (h.mem_iff.1 he)
    obtain ⟨rfl, -⟩ := get?_portBindings_eq_some_iff.1 ((KeyMap.get?_eq_some_iff _ _ _).2 hentry)
    obtain ⟨p, hp, -, hmapping⟩ := mem_mappingsOf_bindings.1 hm
    exact ⟨p, hp, hmapping⟩
  · rintro ⟨p, hp, hmapping⟩
    have hget : (portBindings ports).get? p.key = some (bindingsOf ports p.key) :=
      get?_portBindings_eq_some_iff.2 ⟨rfl, bindingsOf_ne_nil_iff.2 ⟨p, hp, rfl⟩⟩
    refine ⟨(p.key, some (bindingsOf ports p.key)), h.mem_iff.2 ?_, ?_⟩
    · exact List.mem_map.2 ⟨_, (KeyMap.get?_eq_some_iff _ _ _).1 hget, rfl⟩
    · exact mem_mappingsOf_bindings.2 ⟨p, hp, rfl, hmapping⟩

/-! ## Ports of a spec -/

/-- A text, or another one where it is left out or empty. -/
def textOr (other : String) (text : Option String) : String :=
  if text.getD "" = "" then other else text.getD ""

namespace PortSpec

/-- The protocol of a port as the engine has it. -/
def transport (p : PortSpec) : String := Text.asciiLower (textOr "tcp" p.protocol)

/-- The key of a port. -/
def key (p : PortSpec) : String := toString p.containerPort.toNat ++ "/" ++ p.transport

/-- What is published of a port under its key. -/
def published (p : PortSpec) : PortBinding :=
  ⟨some (textOr "0.0.0.0" p.hostIp), p.hostPort.map fun n => toString n.toNat⟩

/-- The mapping that a port asks for, if it names a port of the host. -/
def mapping? (p : PortSpec) : Option PortMapping :=
  p.hostPort.map fun hostPort => ⟨hostPort, p.containerPort, p.transport⟩

theorem getD_nonEmpty? (other : String) (text : Option String) :
    (Text.nonEmpty? text).getD other = textOr other text := by
  cases text with
  | none => rfl
  | some text =>
      by_cases h : text = "" <;> simp [Text.nonEmpty?, textOr, h, Option.filter]

theorem protocol_binding (p : PortSpec) : p.binding.protocol = p.transport :=
  congrArg Text.asciiLower (getD_nonEmpty? _ _)

theorem key_binding (p : PortSpec) : p.binding.key = p.key := by
  rw [PortBindingRequest.key, protocol_binding]
  rfl

theorem binding_binding (p : PortSpec) : p.binding.binding = p.published := by
  have hhost : p.binding.hostIp = textOr "0.0.0.0" p.hostIp := getD_nonEmpty? _ _
  rw [PortBindingRequest.binding, hhost]
  rfl

theorem mapping?_binding (p : PortSpec) : p.binding.mapping? = p.mapping? := by
  rw [PortBindingRequest.mapping?, protocol_binding]
  rfl

end PortSpec

namespace CreateRequest

/-- A map is found in a body key by key; that it is left out where it is empty makes no
difference. -/
theorem get?_map? {α : Type} (encode : α → Json) (m : KeyMap α) (key : String) :
    (map? encode m).bind (Json.get? key) = (m.get? key).map encode := by
  unfold map?
  split
  · rename_i hempty
    rw [KeyMap.get?, List.isEmpty_iff.1 hempty]
    rfl
  · exact Entries.get?_map encode key m.entries

theorem body_exposedPorts (r : CreateRequest) :
    r.body.get? "ExposedPorts" = map? (fun _ => .object []) (portBindings r.ports) := by
  simp [body, Json.get?_record_cons, Json.get?_record_nil, Json.get?_always, Json.get?_whenSome]

theorem body_portBindings (r : CreateRequest) :
    (r.body.get? "HostConfig").bind (Json.get? "PortBindings") =
      map? (fun bindings => .array (bindings.map PortBinding.toJson)) (portBindings r.ports) := by
  simp [body, hostConfig, Json.get?_record_cons, Json.get?_record_nil, Json.get?_always,
    Json.get?_whenSome]

end CreateRequest

/-- The bindings that a spec asks for have the keys of its ports, and under a key there is one
binding for each port with that key, in the order of the ports. The body of the request has these
bindings, and it exposes the ports with the same keys. Whatever the order in which the bindings are
gone through, what is read out of them is the one list, in order and without repetition, of the
mappings of the ports that name a port of the host. -/
theorem ContainerSpec.ports_come_back (spec : ContainerSpec) :
    let bindings := portBindings spec.createRequest.ports
    let body := spec.createRequest.body
    (∀ key, key ∈ bindings.keys ↔ ∃ p ∈ spec.ports, p.key = key) ∧
    (∀ key bs, bindings.get? key = some bs →
      bs = (spec.ports.filter fun p => p.key = key).map PortSpec.published) ∧
    (∀ key, ((body.get? "HostConfig").bind (Json.get? "PortBindings")).bind (Json.get? key) =
      (bindings.get? key).map fun bs => .array (bs.map PortBinding.toJson)) ∧
    (∀ key, (∃ exposed, (body.get? "ExposedPorts").bind (Json.get? key) = some exposed) ↔
      key ∈ bindings.keys) ∧
    ∀ es ms, es.Perm (bindings.entries.map fun e => (e.1, some e.2)) →
      (portMappings es = ms ↔ ms.Pairwise (fun a b => a.rank < b.rank) ∧
        ∀ m, m ∈ ms ↔ ∃ p ∈ spec.ports, p.mapping? = some m) := by
  intro bindings body
  have hports : spec.createRequest.ports = spec.ports.map PortSpec.binding := rfl
  refine ⟨?_, ?_, ?_, ?_, ?_⟩
  · intro key
    rw [mem_keys_portBindings, hports]
    simp only [List.mem_map, exists_exists_and_eq_and, PortSpec.key_binding]
  · intro key bs hbs
    obtain ⟨rfl, -⟩ := get?_portBindings_eq_some_iff.1 hbs
    rw [hports, bindingsOf, List.filter_map, List.map_map]
    simp only [Function.comp_def, PortSpec.key_binding, PortSpec.binding_binding]
  · intro key
    rw [CreateRequest.body_portBindings]
    exact CreateRequest.get?_map? _ _ key
  · intro key
    rw [CreateRequest.body_exposedPorts, CreateRequest.get?_map?, KeyMap.mem_keys_iff]
    simp only [Option.map_eq_some_iff]
    constructor
    · rintro ⟨_, bs, hbs, -⟩
      exact ⟨bs, hbs⟩
    · rintro ⟨bs, hbs⟩
      exact ⟨_, bs, hbs, rfl⟩
  · intro es ms hes
    have hincreasing := increasing_portMappings es
    have hmem : ∀ m, m ∈ portMappings es ↔ ∃ p ∈ spec.ports, p.mapping? = some m := by
      intro m
      rw [mem_portMappings_portBindings hes, hports]
      simp only [List.mem_map, exists_exists_and_eq_and, PortSpec.mapping?_binding]
    constructor
    · rintro rfl
      exact ⟨hincreasing, hmem⟩
    · rintro ⟨hms, hall⟩
      exact hincreasing.eq_of_mem_iff hms fun m => (hmem m).trans (hall m).symm

/-! A port that is published twice, once by another name of its protocol, and a port of its own. -/

def twiceSpec : ContainerSpec :=
  { image := "nginx:1.25", name := none, env := ∅
    ports := [⟨80, some 8080, none, none⟩, ⟨53, some 5353, some "", some "UDP"⟩,
      ⟨80, some 8080, some "127.0.0.1", some "Tcp"⟩]
    command := none, workingDir := none, user := none, restartPolicy := .no, volumes := []
    pullPolicy := .ifNotPresent }

/-- The map has both bindings of the port, and its mapping is read once, also from behind. -/
theorem ports_come_back_twice :
    (portBindings twiceSpec.createRequest.ports).get? "80/tcp" =
      some [⟨some "0.0.0.0", some "8080"⟩, ⟨some "127.0.0.1", some "8080"⟩] ∧
    portMappings ((portBindings twiceSpec.createRequest.ports).entries.map
      fun e => (e.1, some e.2)).reverse = [⟨5353, 53, "udp"⟩, ⟨8080, 80, "tcp"⟩] := by
  obtain ⟨hkeys, hbindings, -, -, hmappings⟩ := twiceSpec.ports_come_back
  constructor
  · have hkey : "80/tcp" ∈ (portBindings twiceSpec.createRequest.ports).keys :=
      (hkeys "80/tcp").2 ⟨_, List.mem_cons_self, by decide +kernel⟩
    obtain ⟨bs, hbs⟩ := (KeyMap.mem_keys_iff _ _).1 hkey
    rw [hbs, hbindings _ bs hbs]
    decide +kernel
  · have hasked : twiceSpec.ports.map PortSpec.mapping? =
        [some ⟨8080, 80, "tcp"⟩, some ⟨5353, 53, "udp"⟩, some ⟨8080, 80, "tcp"⟩] := by
      decide +kernel
    refine (hmappings _ _ (List.reverse_perm _)).2 ⟨by decide +kernel, fun m => ?_⟩
    rw [← List.mem_map, hasked]
    simp only [List.mem_cons, List.not_mem_nil, Option.some.injEq, or_false]
    tauto

end HostAgent
