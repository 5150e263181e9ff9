import Mathlib.Data.List.Sort
import Mathlib.Data.Prod.Lex
import Mathlib.Data.String.Basic
import HostAgent.Engine.Ports

/-!
# The mappings of a map of ports

Mappings have an order, that of the port of the container, the port of the host
and the protocol, one after the other. The mappings that are read out of a map of
ports are strictly increasing in it, and which they are is said by the bindings
alone. A strictly increasing list is determined by its members, so neither the
order of the map nor that of the bindings shows.

## Main results

* `PortMapping.isBefore_iff`: the order of mappings is linear.
* `increasing_portMappings`, `mem_portMappings`: the mappings of a map of ports.
* `PortMapping.Increasing.eq_of_mem_iff`: they are determined by their members.
* `portNumber?_eq_some_iff`, `keyParts_eq_iff`: how numbers and keys are read.
* `portNumber?_toString`, `keyParts_append`: they are read as they are written.
-/

namespace HostAgent

/-! ## The order of mappings -/

namespace PortMapping

/-- What counts in the order of mappings, from the first to the last. -/
def rank (m : PortMapping) : Nat ×ₗ Nat ×ₗ String :=
  toLex (m.containerPort.toNat, toLex (m.hostPort.toNat, m.protocol))

theorem rank_injective : Function.Injective rank := by
  rintro ⟨host, container, protocol⟩ ⟨host', container', protocol'⟩ h
  obtain ⟨hcontainer, hrest⟩ := Prod.mk.inj (toLex.injective h)
  obtain ⟨hhost, hprotocol⟩ := Prod.mk.inj (toLex.injective hrest)
  obtain rfl := UInt16.toNat_inj.1 hcontainer
  obtain rfl := UInt16.toNat_inj.1 hhost
  obtain rfl := hprotocol
  rfl

theorem isBefore_iff (a b : PortMapping) : a.isBefore b = true ↔ a.rank < b.rank := by
  simp only [isBefore, rank, Prod.Lex.toLex_lt_toLex, Bool.or_eq_true, Bool.and_eq_true,
    beq_iff_eq, decide_eq_true_eq, UInt16.lt_iff_toNat_lt, UInt16.toNat_inj]

/-- Each mapping is before all that follow. -/
def Increasing (ms : List PortMapping) : Prop := ms.Pairwise fun a b => a.rank < b.rank

/-- A list in order is determined by its members. -/
theorem Increasing.eq_of_mem_iff {ms ns : List PortMapping} (hms : Increasing ms)
    (hns : Increasing ns) (h : ∀ m, m ∈ ms ↔ m ∈ ns) : ms = ns := by
  have hranks : ms.map rank = ns.map rank := by
    refine List.SortedLT.eq_of_mem_iff ?_ ?_ ?_
    · exact (List.pairwise_map.2 hms).sortedLT
    · exact (List.pairwise_map.2 hns).sortedLT
    · intro r
      simp only [List.mem_map, h]
  exact List.map_injective_iff.2 rank_injective hranks

theorem increasing_insert (m : PortMapping) {ms : List PortMapping} (h : Increasing ms) :
    Increasing (insert m ms) := by
  induction ms with
  | nil => exact List.pairwise_singleton _ m
  | cons n ns ih =>
      obtain ⟨hfirst, hrest⟩ := List.pairwise_cons.1 h
      unfold insert
      split
      · exact h
      · rename_i hne
        split
        · rename_i hbefore
          have hlt : m.rank < n.rank := (isBefore_iff m n).1 hbefore
          refine List.pairwise_cons.2 ⟨?_, h⟩
          intro k hk
          rcases List.mem_cons.1 hk with rfl | hk
          · exact hlt
          · exact hlt.trans (hfirst k hk)
        · rename_i hnot
          have hgt : n.rank < m.rank :=
            (lt_or_gt_of_ne (rank_injective.ne hne)).resolve_left
              fun hlt => hnot ((isBefore_iff m n).2 hlt)
          refine List.pairwise_cons.2 ⟨?_, ih hrest⟩
          intro k hk
          rcases mem_insert.1 hk with rfl | hk
          · exact hgt
          · exact hfirst k hk

end PortMapping

/-! ## Mappings and bindings -/

theorem increasing_portMappings (ports : List (String × Option (List PortBinding))) :
    PortMapping.Increasing (portMappings ports) := by
  unfold portMappings
  induction ports.flatMap fun p => mappingsOf p.1 p.2 with
  | nil => exact .nil
  | cons m ms ih => exact PortMapping.increasing_insert m ih

theorem mem_portMappings {ports : List (String × Option (List PortBinding))} {m : PortMapping} :
    m ∈ portMappings ports ↔ ∃ p ∈ ports, m ∈ mappingsOf p.1 p.2 := by
  have hput : ∀ ms : List PortMapping, m ∈ ms.foldr PortMapping.insert [] ↔ m ∈ ms := by
    intro ms
    induction ms with
    | nil => exact Iff.rfl
    | cons n ms ih => rw [List.foldr_cons, PortMapping.mem_insert, ih, List.mem_cons]
  rw [portMappings, hput, List.mem_flatMap]

/-- A mapping of a key: the numbers are read from the key and from a binding. -/
theorem mem_mappingsOf {key : String} {bindings : Option (List PortBinding)} {m : PortMapping} :
    m ∈ mappingsOf key bindings ↔
      portNumber? (keyParts key).1 = some m.containerPort ∧ (keyParts key).2 = m.protocol ∧
        ∃ b ∈ bindings.getD [], b.hostPort.bind portNumber? = some m.hostPort := by
  unfold mappingsOf
  cases hnumber : portNumber? (keyParts key).1 with
  | none => simp
  | some number =>
      simp only [List.mem_map, List.mem_filterMap, Option.some.injEq]
      constructor
      · rintro ⟨host, hhost, rfl⟩
        exact ⟨rfl, rfl, hhost⟩
      · rintro ⟨rfl, hprotocol, hhost⟩
        exact ⟨m.hostPort, hhost, by rw [hprotocol]⟩

/-! ## Numbers and keys -/

/-- The number of some digits. -/
theorem digits?_eq_some_iff {cs : List Char} {n : Nat} :
    Decimal.digits? cs = some n ↔
      cs ≠ [] ∧ (∀ c ∈ cs, c.isDigit = true) ∧ Nat.ofDigitChars 10 cs 0 = n := by
  simp only [Decimal.digits?, Option.ite_none_right_eq_some, Bool.and_eq_true, Bool.not_eq_true',
    List.isEmpty_eq_false_iff, List.all_eq_true, Option.some.injEq, and_assoc]
  exact Iff.rfl

theorem nat?_eq_some_iff {text : String} {n : Nat} :
    Decimal.nat? text = some n ↔
      ∃ digits : List Char, (text.toList = digits ∨ text.toList = '+' :: digits) ∧
        Decimal.digits? digits = some n := by
  unfold Decimal.nat? Decimal.natChars?
  split
  · rename_i cs hplus
    constructor
    · intro h
      exact ⟨cs, .inr hplus, h⟩
    · rintro ⟨digits, hdigits | hdigits, h⟩
      · -- A plus sign is no digit.
        have hmem : '+' ∈ digits := by
          rw [← hdigits, hplus]
          exact List.mem_cons_self
        exact absurd ((digits?_eq_some_iff.1 h).2.1 _ hmem) (by decide)
      · obtain rfl : cs = digits := List.cons_inj_right '+' |>.1 (hplus.symm.trans hdigits)
        exact h
  · rename_i hplus
    constructor
    · intro h
      exact ⟨_, .inl rfl, h⟩
    · rintro ⟨digits, hdigits | hdigits, h⟩
      · exact hdigits ▸ h
      · exact absurd hdigits (hplus digits)

/-- A number is read as it is written. -/
theorem nat?_toString (n : Nat) : Decimal.nat? (toString n) = some n := by
  refine nat?_eq_some_iff.2 ⟨Nat.toDigits 10 n, .inl Nat.toList_repr, ?_⟩
  refine digits?_eq_some_iff.2 ⟨Nat.toDigits_ne_nil, ?_, ?_⟩
  · exact fun _ hc => Nat.isDigit_of_mem_toDigits (by decide) (by decide) hc
  · exact Nat.ofDigitChars_toDigits (by decide) (by decide)

/-- A text stands for a port number: digits, perhaps after a plus sign. -/
def IsPort (text : String) (n : UInt16) : Prop :=
  ∃ digits : List Char, (text.toList = digits ∨ text.toList = '+' :: digits) ∧ digits ≠ [] ∧
    (∀ c ∈ digits, c.isDigit = true) ∧ Nat.ofDigitChars 10 digits 0 = n.toNat

/-- A port number is a number that fits. -/
theorem portNumber?_eq_some_iff_nat? {text : String} {n : UInt16} :
    portNumber? text = some n ↔ Decimal.nat? text = some n.toNat := by
  rw [portNumber?, Decimal.natBelow?, Option.map_eq_some_iff]
  constructor
  · rintro ⟨m, hm, rfl⟩
    obtain ⟨hread, hfits⟩ := Option.filter_eq_some_iff.1 hm
    rw [hread, UInt16.toNat_ofNat_of_lt' (of_decide_eq_true hfits)]
  · intro hread
    refine ⟨n.toNat, Option.filter_eq_some_iff.2 ⟨hread, decide_eq_true n.toNat_lt⟩, ?_⟩
    exact UInt16.ofNat_toNat

/-- A port number is read from the texts that stand for it, and from no others. -/
theorem portNumber?_eq_some_iff {text : String} {n : UInt16} :
    portNumber? text = some n ↔ IsPort text n := by
  rw [portNumber?_eq_some_iff_nat?, nat?_eq_some_iff]
  simp only [digits?_eq_some_iff]
  exact Iff.rfl

/-- The number of a port is read as it is written. -/
theorem portNumber?_toString (n : UInt16) : portNumber? (toString n.toNat) = some n :=
  portNumber?_eq_some_iff_nat?.2 (nat?_toString n.toNat)

/-- A key is cut at its first slash. -/
theorem keyParts_append {port : String} (h : '/' ∉ port.toList) (protocol : String) :
    keyParts (port ++ "/" ++ protocol) = (port, protocol) := by
  have hchars : (port ++ "/" ++ protocol).toList = port.toList ++ '/' :: protocol.toList :=
    Text.toList_joined port protocol '/'
  rw [keyParts, hchars, Text.cutAt_eq_some_iff.2 ⟨rfl, h⟩]
  show (String.ofList port.toList, String.ofList protocol.toList) = _
  rw [String.ofList_toList, String.ofList_toList]

/-- A key names a port and a protocol: with a slash between them, or by the port alone for the
default protocol. -/
def IsKey (key port protocol : String) : Prop :=
  (key = port ++ "/" ++ protocol ∧ '/' ∉ port.toList) ∨
    ('/' ∉ key.toList ∧ port = key ∧ protocol = "tcp")

theorem isKey_keyParts (key : String) : IsKey key (keyParts key).1 (keyParts key).2 := by
  unfold keyParts
  split
  · rename_i port protocol hcut
    obtain ⟨hkey, hport⟩ := Text.cutAt_eq_some_iff.1 hcut
    refine .inl ⟨String.toList_injective ?_, ?_⟩
    · simp [hkey]
    · rwa [String.toList_ofList]
  · rename_i hcut
    exact .inr ⟨(Text.cutAt_eq_none_iff.1 hcut).2, rfl, rfl⟩

theorem keyParts_eq_iff {key port protocol : String} :
    keyParts key = (port, protocol) ↔ IsKey key port protocol := by
  constructor
  · intro h
    have hkey := isKey_keyParts key
    rwa [h] at hkey
  · rintro (⟨rfl, hport⟩ | ⟨hkey, rfl, rfl⟩)
    · exact keyParts_append hport protocol
    · rw [keyParts, Text.cutAt_eq_none_iff.2 ⟨rfl, hkey⟩]
      rfl

end HostAgent
