import HostAgent.Text.Blank

/-!
# The bytes of a text

The first byte of a character tells how many bytes it has, and the more there are,
the larger it is. All bytes carry the digits of the code point, the highest first.
So a character before another has smaller bytes, whatever follows the two, and
texts are ordered as their bytes are.

## Main results

* `exists_utf8Form`: the bytes of a character.
* `bytes_lt`: of two texts in order, the bytes are in the same order.
-/

namespace HostAgent.Text

/-! ## The bytes of a character -/

/-- The bytes of a code point: marks for how many there are, and digits of six bits. -/
inductive Utf8Form : Nat → List Nat → Prop
  | one {a : Nat} : a < 0x80 → Utf8Form a [a]
  | two {a b : Nat} : 2 ≤ a → a < 0x20 → b < 64 → Utf8Form (64 * a + b) [0xC0 + a, 0x80 + b]
  | three {a b c : Nat} : 0x20 ≤ 64 * a + b → a < 0x10 → b < 64 → c < 64 →
      Utf8Form (64 * (64 * a + b) + c) [0xE0 + a, 0x80 + b, 0x80 + c]
  | four {a b c d : Nat} : 0x10 ≤ 64 * a + b → a < 8 → b < 64 → c < 64 → d < 64 →
      Utf8Form (64 * (64 * (64 * a + b) + c) + d) [0xF0 + a, 0x80 + b, 0x80 + c, 0x80 + d]

/-- The last digit of six bits. -/
theorem exists_digit (v : Nat) : ∃ q d, v = 64 * q + d ∧ d < 64 :=
  ⟨v / 64, v % 64, by omega, by omega⟩

/-- A byte of ASCII stands alone. -/
theorem Utf8Form.mem_cases {v n : Nat} {ds : List Nat} (h : Utf8Form v ds) (hn : n ∈ ds) :
    n = v ∧ v < 0x80 ∨ 0x80 ≤ n ∧ n < 0x100 := by
  cases h <;> simp only [List.mem_cons, List.not_mem_nil, or_false] at hn <;> omega

theorem exists_utf8Form (c : Char) :
    ∃ ds, String.utf8EncodeChar c = ds.map UInt8.ofNat ∧ Utf8Form c.toNat ds := by
  have hlt : c.val.toNat < 0x110000 := by
    rcases c.valid with h | h <;> omega
  unfold String.utf8EncodeChar
  show ∃ ds, _ ∧ Utf8Form c.val.toNat ds
  generalize c.val.toNat = v at hlt
  dsimp only
  split
  · exact ⟨[v], rfl, .one (by omega)⟩
  obtain ⟨q, d, rfl, hd⟩ := exists_digit v
  split
  · refine ⟨_, ?_, .two (a := q) (b := d) (by omega) (by omega) hd⟩
    rw [show (64 * q + d) / 64 % 32 + 192 = 0xC0 + q by omega,
      show (64 * q + d) % 64 + 128 = 0x80 + d by omega]
    rfl
  obtain ⟨q, b, rfl, hb⟩ := exists_digit q
  split
  · refine ⟨_, ?_, .three (a := q) (b := b) (c := d) (by omega) (by omega) hb hd⟩
    rw [show (64 * (64 * q + b) + d) / 4096 % 16 + 224 = 0xE0 + q by omega,
      show (64 * (64 * q + b) + d) / 64 % 64 + 128 = 0x80 + b by omega,
      show (64 * (64 * q + b) + d) % 64 + 128 = 0x80 + d by omega]
    rfl
  · obtain ⟨q, a, rfl, ha⟩ := exists_digit q
    refine ⟨_, ?_, .four (a := q) (b := a) (c := b) (d := d) (by omega) (by omega) ha hb hd⟩
    rw [show (64 * (64 * (64 * q + a) + b) + d) / 262144 % 8 + 240 = 0xF0 + q by omega,
      show (64 * (64 * (64 * q + a) + b) + d) / 4096 % 64 + 128 = 0x80 + a by omega,
      show (64 * (64 * (64 * q + a) + b) + d) / 64 % 64 + 128 = 0x80 + b by omega,
      show (64 * (64 * (64 * q + a) + b) + d) % 64 + 128 = 0x80 + d by omega]
    rfl

/-! ## The order of bytes -/

/-- Of two code points in order, the bytes are in the same order, whatever follows them. -/
theorem Utf8Form.append_lt {v w : Nat} {ds es : List Nat} (hv : Utf8Form v ds) (hw : Utf8Form w es)
    (h : v < w) (xs ys : List UInt8) : ds.map UInt8.ofNat ++ xs < es.map UInt8.ofNat ++ ys := by
  cases hv <;> cases hw
  all_goals
    simp only [List.map_cons, List.map_nil, List.cons_append, List.cons_lt_cons_iff,
      UInt8.lt_iff_toNat_lt, ← UInt8.toNat_inj, UInt8.toNat_ofNat']
    omega

/-- The bytes of a text. -/
def bytes (s : String) : List UInt8 := s.toUTF8.data.toList

theorem bytes_eq (s : String) : bytes s = s.toList.flatMap String.utf8EncodeChar := by
  have hs : s.toUTF8 = (s.toList.flatMap String.utf8EncodeChar).toByteArray :=
    String.utf8Encode_toList.symm
  rw [bytes, hs, List.data_toByteArray]

theorem flatMap_utf8_lt {cs ds : List Char} (h : cs < ds) :
    cs.flatMap String.utf8EncodeChar < ds.flatMap String.utf8EncodeChar := by
  induction cs generalizing ds with
  | nil =>
      cases ds with
      | nil => cases h
      | cons d ds =>
          obtain ⟨b, bs, hb⟩ := List.exists_cons_of_ne_nil (@String.utf8EncodeChar_ne_nil d)
          rw [List.flatMap_cons, hb]
          exact List.nil_lt_cons _ _
  | cons c cs ih =>
      cases ds with
      | nil => cases h
      | cons d ds =>
          rw [List.flatMap_cons, List.flatMap_cons]
          rcases List.cons_lt_cons_iff.1 h with hlt | ⟨rfl, hrest⟩
          · obtain ⟨vs, hvs, hv⟩ := exists_utf8Form c
            obtain ⟨ws, hws, hw⟩ := exists_utf8Form d
            rw [hvs, hws]
            exact hv.append_lt hw hlt _ _
          · exact List.append_left_lt (ih hrest)

/-- Texts in order have their bytes in order. -/
theorem bytes_lt {s t : String} (h : s < t) : bytes s < bytes t := by
  rw [bytes_eq, bytes_eq]
  exact flatMap_utf8_lt h

end HostAgent.Text
