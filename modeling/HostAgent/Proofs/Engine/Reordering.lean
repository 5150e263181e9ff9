import Mathlib.Data.List.Destutter
import HostAgent.Engine.Inspection
import HostAgent.Proofs.Engine.Mappings
import HostAgent.Proofs.Json.Differing
import HostAgent.Proofs.Json.Writing

/-!
# Mappings and the order of ports

The mappings of a map of ports are a canonical form of its bindings: in order, each
once, and which they are is said by the bindings that stand under the keys. Sorting
all mappings by port of the container, port of the host and protocol, and then
dropping each that is the same as the one before it, comes to the same.

So no order shows: not that in which the ports are gone through, which a table of
hashes may choose anew each time, and not that in which the engine lists them. What
is read of a container is the same, and so is its record.

## Main results

* `mem_portMappings_iff`: the mappings, from texts of keys and bindings.
* `portMappings_eq_sorted`: sorting, and dropping neighbours.
* `portMappings_congr`: the same bindings have the same mappings.
* `Inspection.detailIn_eq`, `Inspection.detail_restated`: no order shows in what is read.
* `portMappings_canonical`: all of this together, up to the record.
-/

namespace HostAgent

open Json (Decoder DifferAt Fields Reading Tree)

variable {ports others : List (String × Option (List PortBinding))}

/-! ## Sorting and dropping neighbours -/

namespace PortMapping

/-- The order of mappings, where a mapping is not after itself. -/
def isUpTo (a b : PortMapping) : Bool := !b.isBefore a

theorem isUpTo_iff (a b : PortMapping) : a.isUpTo b = true ↔ a.rank ≤ b.rank := by
  rw [isUpTo, Bool.not_eq_true', Bool.eq_false_iff, ne_eq, isBefore_iff, not_lt]

/-- Only those are dropped that stand beside the same. -/
theorem mem_destutter' {m n : PortMapping} {ms : List PortMapping} :
    n ∈ ms.destutter' (· ≠ ·) m ↔ n ∈ m :: ms := by
  induction ms generalizing m with
  | nil => rfl
  | cons k ms ih =>
      by_cases hne : m ≠ k
      · rw [List.destutter'_cons_pos _ hne, List.mem_cons, ih, ← List.mem_cons]
      · obtain rfl := not_not.1 hne
        rw [List.destutter'_cons_neg _ hne, ih]
        simp

/-- In a sorted list the same stand beside each other. -/
theorem increasing_destutter' {m : PortMapping} {ms : List PortMapping}
    (h : (m :: ms).Pairwise fun a b => a.rank ≤ b.rank) :
    Increasing (ms.destutter' (· ≠ ·) m) := by
  induction ms generalizing m with
  | nil => exact List.pairwise_singleton _ m
  | cons k ms ih =>
      obtain ⟨hfirst, hrest⟩ := List.pairwise_cons.1 h
      by_cases hne : m ≠ k
      · rw [List.destutter'_cons_pos _ hne]
        refine List.pairwise_cons.2 ⟨?_, ih hrest⟩
        intro n hn
        have hlt : m.rank < k.rank :=
          lt_of_le_of_ne (hfirst k List.mem_cons_self) (rank_injective.ne hne)
        rcases List.mem_cons.1 (mem_destutter'.1 hn) with rfl | hn
        · exact hlt
        · exact hlt.trans_le (List.rel_of_pairwise_cons hrest hn)
      · rw [List.destutter'_cons_neg _ hne]
        exact ih (h.sublist (List.Sublist.cons_cons m (List.sublist_cons_self k ms)))

/-- All mappings sorted, each that is the same as the one before it dropped. -/
def sorted (ms : List PortMapping) : List PortMapping := (ms.mergeSort isUpTo).destutter (· ≠ ·)

theorem mem_sorted {m : PortMapping} {ms : List PortMapping} : m ∈ sorted ms ↔ m ∈ ms := by
  have hsort : m ∈ ms.mergeSort isUpTo ↔ m ∈ ms := List.mem_mergeSort
  rw [← hsort, sorted]
  cases ms.mergeSort isUpTo with
  | nil => rfl
  | cons n ns => exact mem_destutter'

theorem increasing_sorted (ms : List PortMapping) : Increasing (sorted ms) := by
  have hpairwise : (ms.mergeSort isUpTo).Pairwise fun a b => a.rank ≤ b.rank := by
    refine (List.pairwise_mergeSort ?_ ?_ ms).imp fun h => (isUpTo_iff _ _).1 h
    · intro a b c hab hbc
      rw [isUpTo_iff] at hab hbc ⊢
      exact hab.trans hbc
    · intro a b
      rw [Bool.or_eq_true, isUpTo_iff, isUpTo_iff]
      exact le_total _ _
  unfold sorted
  cases hsorted : ms.mergeSort isUpTo with
  | nil => exact .nil
  | cons n ns => exact increasing_destutter' (hsorted ▸ hpairwise)

end PortMapping

/-! ## Mappings from texts -/

theorem portMappings_eq_sorted (ports : List (String × Option (List PortBinding))) :
    portMappings ports = PortMapping.sorted (ports.flatMap fun p => mappingsOf p.1 p.2) := by
  refine (increasing_portMappings ports).eq_of_mem_iff (PortMapping.increasing_sorted _) fun m => ?_
  rw [mem_portMappings, PortMapping.mem_sorted, List.mem_flatMap]

/-- A binding under a key gives a mapping if the texts of both stand for its numbers. -/
def Publishes (key : String) (b : PortBinding) (m : PortMapping) : Prop :=
  (∃ port, IsKey key port m.protocol ∧ IsPort port m.containerPort) ∧
    ∃ host, b.hostPort = some host ∧ IsPort host m.hostPort

theorem mem_mappingsOf_iff {key : String} {bindings : Option (List PortBinding)} {m : PortMapping} :
    m ∈ mappingsOf key bindings ↔ ∃ bs, bindings = some bs ∧ ∃ b ∈ bs, Publishes key b m := by
  have hkey : (portNumber? (keyParts key).1 = some m.containerPort ∧
      (keyParts key).2 = m.protocol) ↔
      ∃ port, IsKey key port m.protocol ∧ IsPort port m.containerPort := by
    constructor
    · rintro ⟨hnumber, hprotocol⟩
      exact ⟨_, hprotocol ▸ isKey_keyParts key, portNumber?_eq_some_iff.1 hnumber⟩
    · rintro ⟨port, hkey, hport⟩
      rw [keyParts_eq_iff.2 hkey]
      exact ⟨portNumber?_eq_some_iff.2 hport, rfl⟩
  rw [mem_mappingsOf, ← and_assoc, hkey]
  cases bindings with
  | none => simp
  | some bs =>
      simp only [Option.getD_some, Option.bind_eq_some_iff, portNumber?_eq_some_iff, Publishes,
        Option.some.injEq, exists_eq_left']
      constructor
      · rintro ⟨hkey, b, hb, hhost⟩
        exact ⟨b, hb, hkey, hhost⟩
      · rintro ⟨b, hb, hkey, hhost⟩
        exact ⟨hkey, b, hb, hhost⟩

/-- The binding stands under the key. -/
def Binds (ports : List (String × Option (List PortBinding))) (key : String) (b : PortBinding) :
    Prop :=
  ∃ bs, (key, some bs) ∈ ports ∧ b ∈ bs

theorem mem_portMappings_iff {m : PortMapping} :
    m ∈ portMappings ports ↔ ∃ key b, Binds ports key b ∧ Publishes key b m := by
  simp only [mem_portMappings, mem_mappingsOf_iff]
  constructor
  · rintro ⟨⟨key, bindings⟩, hmem, bs, rfl, b, hb, hm⟩
    exact ⟨key, b, ⟨bs, hmem, hb⟩, hm⟩
  · rintro ⟨key, b, ⟨bs, hmem, hb⟩, hm⟩
    exact ⟨(key, some bs), hmem, bs, rfl, b, hb, hm⟩

/-- The same bindings stand under the same keys, in whatever order. -/
def SameBindings (ports others : List (String × Option (List PortBinding))) : Prop :=
  ∀ key b, Binds ports key b ↔ Binds others key b

theorem portMappings_congr (h : SameBindings ports others) :
    portMappings ports = portMappings others := by
  refine (increasing_portMappings ports).eq_of_mem_iff (increasing_portMappings others) fun m => ?_
  rw [mem_portMappings_iff, mem_portMappings_iff]
  exact exists₂_congr fun key b => and_congr_left' (h key b)

theorem binds_cons {p : String × Option (List PortBinding)} {key : String} {b : PortBinding} :
    Binds (p :: ports) key b ↔ (p.1 = key ∧ b ∈ p.2.getD []) ∨ Binds ports key b := by
  obtain ⟨own, bindings⟩ := p
  simp only [Binds, List.mem_cons, Prod.mk.injEq]
  constructor
  · rintro ⟨bs, ⟨rfl, rfl⟩ | hmem, hb⟩
    · exact .inl ⟨rfl, hb⟩
    · exact .inr ⟨bs, hmem, hb⟩
  · rintro (⟨rfl, hb⟩ | ⟨bs, hmem, hb⟩)
    · cases bindings with
      | none => cases hb
      | some bs => exact ⟨bs, .inl ⟨rfl, rfl⟩, hb⟩
    · exact ⟨bs, .inr hmem, hb⟩

theorem sameBindings_of_perm (h : ports.Perm others) : SameBindings ports others := by
  intro key b
  simp only [Binds, h.mem_iff]

/-- Under each key the bindings may have another order too. -/
theorem sameBindings_of_forall₂
    (h : List.Forall₂ (fun p q => p.1 = q.1 ∧ (p.2.getD []).Perm (q.2.getD [])) ports others) :
    SameBindings ports others := by
  intro key b
  induction h with
  | nil => rfl
  | cons hfirst _ ih => rw [binds_cons, binds_cons, ih, hfirst.1, hfirst.2.mem_iff]

namespace Inspection

/-! ## The order in which the ports are gone through -/

/-- A map of ports as the engine gives it. -/
def portMap : Decoder (KeyMap (Option (List PortBinding))) :=
  .keyMap (.option (.list PortBinding.decoder))

/-- A way to go through a map of ports. -/
abbrev Listing : Type :=
  KeyMap (Option (List PortBinding)) → List (String × Option (List PortBinding))

/-- Going through a map does not change which bindings stand under which keys. -/
def Listing.Fair (listing : Listing) : Prop := ∀ m, SameBindings m.entries (listing m)

/-- As `network`, for a way to go through the ports. -/
def networkIn (listing : Listing) : Decoder (List PortMapping) :=
  Fields.decodeObject <|
    (fun (ports : Option (KeyMap (Option (List PortBinding)))) =>
      (ports.map fun m => portMappings (listing m)).getD []) <$>
      Fields.optionalNamed "Ports" portMap

/-- As `detail`, for a way to go through the ports. -/
def detailIn (listing : Listing) (requested : String) : Decoder ContainerDetail :=
  Fields.decodeObject <|
    (fun id name created image state config ports =>
      let made : String × KeyMap String := config.getD ("", ∅)
      { id := id.getD requested
        name := bareName name
        image := if made.1 = "" then image.getD "" else made.1
        state := state.getD .none
        ports := ports.getD []
        env := made.2
        createdAt := created.bind Timestamp.readStrict? }) <$>
      Fields.optionalNamed "Id" Decoder.string
    <*> Fields.optionalNamed "Name" Decoder.string
    <*> Fields.optionalNamed "Created" Decoder.string
    <*> Fields.optionalNamed "Image" Decoder.string
    <*> Fields.optionalNamed "State" state
    <*> Fields.optionalNamed "Config" config
    <*> Fields.optionalNamed "NetworkSettings" (networkIn listing)

theorem detailIn_entries (requested : String) :
    detailIn KeyMap.entries requested = detail requested := rfl

theorem networkIn_eq {listing : Listing} (h : listing.Fair) :
    networkIn listing = networkIn KeyMap.entries := by
  have hports : (fun ports : Option (KeyMap (Option (List PortBinding))) =>
      (ports.map fun m => portMappings (listing m)).getD []) =
      fun ports => (ports.map fun m => portMappings m.entries).getD [] := by
    funext ports
    cases ports with
    | none => rfl
    | some m => exact (portMappings_congr (h m)).symm
  rw [networkIn, hports]
  rfl

/-- Whatever the engine answers, it is read alike, however the ports are gone through. -/
theorem detailIn_eq {listing : Listing} (h : listing.Fair) (requested : String) :
    detailIn listing requested = detail requested := by
  rw [detailIn, networkIn_eq h]
  exact detailIn_entries requested

/-! ## The order in which the engine lists the ports -/

/-- Two values are maps of ports with the same bindings under the same keys. -/
def PortsAlike (depth : Nat) (t t' : Tree) : Prop :=
  ∃ m m', portMap ⟨.text, depth⟩ t = .ok m ∧ portMap ⟨.text, depth⟩ t' = .ok m' ∧
    SameBindings m.entries m'.entries

/-- Two values are objects that differ at most in how they list the ports. -/
def NetworkAlike (depth : Nat) (t t' : Tree) : Prop :=
  ∃ ms ms', t = .object ms ∧ t' = .object ms' ∧ DifferAt "Ports" (PortsAlike depth) ms ms'

/-- Two texts stand for the same answer about a container, or for answers that differ in how they
list its ports. -/
structure Restated (text text' : String) : Prop where
  trailing : (Json.read text).trailing = (Json.read text').trailing
  root : (Json.read text).root = (Json.read text').root ∨
    ∃ ms ms', (Json.read text).root = .object ms ∧ (Json.read text').root = .object ms' ∧
      DifferAt "NetworkSettings" (NetworkAlike (Json.maxDepth - 2)) ms ms'

theorem option_portMap {r : Reading} {t : Tree} {m : KeyMap (Option (List PortBinding))}
    (h : portMap r t = .ok m) : portMap.option r t = .ok (some m) := by
  cases t with
  | object ms => exact congrArg (Except.map some) h
  | _ => cases h

theorem network_alike {depth : Nat} {t t' : Tree} (h : NetworkAlike depth t t') :
    network ⟨.text, depth + 1⟩ t = network ⟨.text, depth + 1⟩ t' := by
  obtain ⟨ms, ms', rfl, rfl, hports⟩ := h
  refine Fields.decodeObject_differAt rfl ?_ ?_ hports
  · rintro t t' ⟨m, m', hm, hm', -⟩
    show (portMap.option _ t).map _ = (portMap.option _ t').map _
    rw [option_portMap hm, option_portMap hm']
    rfl
  · intro found found' hfound
    simp only [Functor.map, Fields.map, Fields.optionalNamed, Fields.member]
    rcases hfound "Ports" with heq | ⟨-, t, t', ht, ht', m, m', hm, hm', hsame⟩
    · rw [heq]
    · rw [ht, ht']
      show (portMap.option _ t).map _ = (portMap.option _ t').map _
      rw [option_portMap hm, option_portMap hm']
      exact congrArg Except.ok (portMappings_congr hsame)

theorem option_network_alike {depth : Nat} {t t' : Tree} (h : NetworkAlike depth t t') :
    network.option ⟨.text, depth + 1⟩ t = network.option ⟨.text, depth + 1⟩ t' := by
  have halike := network_alike h
  obtain ⟨ms, ms', rfl, rfl, -⟩ := h
  exact congrArg (Except.map some) halike

/-- Of two objects that differ at most in how they list the ports, the same is read. -/
theorem detail_alike {ms ms' : Json.Members}
    (h : DifferAt "NetworkSettings" (NetworkAlike (Json.maxDepth - 2)) ms ms')
    (requested : String) :
    detail requested ⟨.text, Json.maxDepth⟩ (.object ms) =
      detail requested ⟨.text, Json.maxDepth⟩ (.object ms') := by
  have hother : ∀ {own : String}, own ≠ "NetworkSettings" → ∀ {β : Type} (d : Decoder β),
      (Fields.optionalNamed own d).Blind ⟨.text, Json.maxDepth - 1⟩ "NetworkSettings"
        (NetworkAlike (Json.maxDepth - 2)) :=
    fun hown _ _ => Fields.blind_member fun h => absurd h hown
  have hnetwork : (Fields.optionalNamed "NetworkSettings" network).Blind
      ⟨.text, Json.maxDepth - 1⟩ "NetworkSettings" (NetworkAlike (Json.maxDepth - 2)) :=
    Fields.blind_member fun _ t t' h => option_network_alike h
  refine Fields.decodeObject_differAt rfl ?_ ?_ h
  · intro t t' h
    exact congrArg (Except.map _) (option_network_alike h)
  · exact (((((((hother (by decide) _).map _).seq (hother (by decide) _)).seq
      (hother (by decide) _)).seq (hother (by decide) _)).seq (hother (by decide) _)).seq
      (hother (by decide) _)).seq hnetwork

theorem detail_restated {text text' : String} (h : Restated text text') (requested : String) :
    Json.decodeText (detail requested) text = Json.decodeText (detail requested) text' := by
  rw [Json.decodeText, Json.decodeText, h.trailing]
  rcases h.root with heq | ⟨ms, ms', hms, hms', hdiffer⟩
  · rw [heq]
  · rw [hms, hms', detail_alike hdiffer]

end Inspection

/-! ## All together -/

open Inspection (Listing Restated detailIn)

/-- The mappings of any map of ports are strictly increasing by port of the container, port of the
host and protocol, and they are those of its bindings: a mapping is there if and only if a binding
stands under a key, and the texts of the two stand for its numbers and its protocol. They are all
mappings sorted, where each that is the same as its neighbour is dropped. So they are the same for
every map with the same bindings under the same keys. Two records of a container that are read of
answers which differ at most in how they list the ports are the same, in whatever order the ports
are gone through each time. -/
theorem portMappings_canonical (ports : List (String × Option (List PortBinding))) :
    PortMapping.Increasing (portMappings ports) ∧
    (∀ m : PortMapping, m ∈ portMappings ports ↔
      ∃ key b, Binds ports key b ∧ Publishes key b m) ∧
    portMappings ports = PortMapping.sorted (ports.flatMap fun p => mappingsOf p.1 p.2) ∧
    (∀ others, SameBindings ports others → portMappings others = portMappings ports) ∧
    ∀ listing listing' : Listing, listing.Fair → listing'.Fair →
      ∀ text text', Restated text text' → ∀ hostId id,
        (Json.decodeText (detailIn listing id) text).map (·.record hostId) =
          (Json.decodeText (detailIn listing' id) text').map (·.record hostId) := by
  refine ⟨increasing_portMappings ports, fun _ => mem_portMappings_iff,
    portMappings_eq_sorted ports, fun others h => (portMappings_congr h).symm, ?_⟩
  intro listing listing' hfair hfair' text text' htexts hostId id
  rw [Inspection.detailIn_eq hfair, Inspection.detailIn_eq hfair',
    Inspection.detail_restated htexts]

/-- Keys with and without a protocol, numbers of both spellings, and one that is too large. -/
example :
    portMappings
      [("80", some [⟨none, some "8080"⟩, ⟨some "::", some "+8080"⟩, ⟨none, none⟩]),
        ("53/udp", some [⟨none, some "053"⟩, ⟨none, some "65536"⟩]), ("x/tcp", none)] =
      [⟨53, 53, "udp"⟩, ⟨8080, 80, "tcp"⟩] := by
  decide

/-! Two answers about a container, which list the ports and the bindings of one in either order. -/

/-- An answer about a container with these ports. -/
def answerWith (ports : List (String × Json)) : Json :=
  .object [("Id", .string "x"), ("NetworkSettings", .object [("Ports", .object ports)])]

def bindingTo (host : String) : Json := .object [("HostPort", .string host)]

def somePorts : List (String × Json) :=
  [("80", .array [bindingTo "+81", bindingTo "8080"]), ("53/udp", .null)]

def samePorts : List (String × Json) :=
  [("53/udp", .null), ("80", .array [bindingTo "8080", bindingTo "+81"])]

theorem portsAlike_samePorts (depth : Nat) :
    Inspection.PortsAlike (depth + 3) (Tree.ofJson (.object somePorts))
      (Tree.ofJson (.object samePorts)) := by
  refine ⟨_, _, rfl, rfl, sameBindings_of_forall₂ ?_⟩
  exact .cons ⟨rfl, .refl _⟩ (.cons ⟨rfl, .swap _ _ _⟩ .nil)

theorem isExact_somePorts : (answerWith somePorts).IsExact :=
  ⟨by simp [answerWith, somePorts, bindingTo, Json.Fits, Json.MembersFit, Json.ItemsFit], rfl⟩

theorem isExact_samePorts : (answerWith samePorts).IsExact :=
  ⟨by simp [answerWith, samePorts, bindingTo, Json.Fits, Json.MembersFit, Json.ItemsFit], rfl⟩

theorem restated_samePorts :
    Restated (answerWith somePorts).render (answerWith samePorts).render := by
  refine ⟨?_, .inr ?_⟩
  · rw [Json.read_render isExact_somePorts, Json.read_render isExact_samePorts]
  · rw [Json.read_render isExact_somePorts, Json.read_render isExact_samePorts]
    refine ⟨_, _, rfl, rfl, .cons _ _ (.here ⟨_, _, rfl, rfl, ?_⟩ .closed)⟩
    exact .here (portsAlike_samePorts _) .closed

/-- Of the two answers the same record is made, also if the second is gone through from its end. -/
theorem portMappings_canonical_shuffled :
    let backwards : Listing := fun m => m.entries.reverse
    backwards.Fair ∧
    (Json.decodeText (detailIn backwards "x") (answerWith samePorts).render).map
        (·.record "h1") =
      .ok { id := "x", name := "", image := "", status := .stopped, hostId := "h1",
            ports := [⟨81, 80, "tcp"⟩, ⟨8080, 80, "tcp"⟩], env := ∅, createdAt := none } := by
  intro backwards
  have hfair : backwards.Fair := fun m => sameBindings_of_perm m.entries.reverse_perm.symm
  have hentries : Listing.Fair KeyMap.entries := fun _ => sameBindings_of_perm (.refl _)
  obtain ⟨-, -, -, -, hrecord⟩ := portMappings_canonical []
  refine ⟨hfair, ?_⟩
  rw [← hrecord _ backwards hentries hfair _ _ restated_samePorts "h1" "x", Json.decodeText,
    Json.read_render isExact_somePorts]
  rfl

end HostAgent
