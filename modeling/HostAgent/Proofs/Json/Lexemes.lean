import HostAgent.Json.Encode
import HostAgent.Json.Tree
import HostAgent.Text.Blank

/-!
# Strings and numbers are read back

What is written for a string is read as the string: an escape stands for the
character it was made of, and every other character for itself. What is written
for a whole number of at most 64 bits is read as the number: its digits are all
gathered, and the first of several is not zero. A numeral ends where nothing goes
on with it, so this depends on what is written behind it.

## Main results

* `readString_quoted`: a string is read back.
* `readNumber_int`: a whole number is read back.
-/

namespace HostAgent.Json

/-! ## Strings -/

theorem hexDigit?_hexDigit {n : Nat} (h : n < 16) : Text.hexDigit? (hexDigit n) = some n := by
  have hall : ∀ n < 16, Text.hexDigit? (hexDigit n) = some n := by decide
  exact hall n h

/-- An escaped character is read back. -/
theorem readString_escape (c : Char) (fuel : Nat) (g : Gathered) (cs : List Char) :
    readString (fuel + 1) g (escape c ++ cs) = readString fuel (g.push c) cs := by
  unfold escape
  by_cases hquote : c = '"'
  · subst hquote
    rfl
  by_cases hback : c = '\\'
  · subst hback
    rfl
  rw [if_neg hquote, if_neg hback]
  by_cases hcontrol : c.toNat < 0x20
  · rw [if_pos hcontrol]
    have hsame : ∀ d : Char, c.toNat = d.toNat → c = d := fun d h => Char.toNat_inj.1 h
    by_cases hb : c.toNat = 0x08
    · obtain rfl := hsame '\x08' hb
      rfl
    by_cases ht : c.toNat = 0x09
    · obtain rfl := hsame '\t' ht
      rfl
    by_cases hn : c.toNat = 0x0A
    · obtain rfl := hsame '\n' hn
      rfl
    by_cases hf : c.toNat = 0x0C
    · obtain rfl := hsame '\x0c' hf
      rfl
    by_cases hr : c.toNat = 0x0D
    · obtain rfl := hsame '\r' hr
      rfl
    rw [if_neg hb, if_neg ht, if_neg hn, if_neg hf, if_neg hr]
    have hfour : hexFour ('0' :: '0' :: hexDigit (c.toNat / 16) :: hexDigit (c.toNat % 16) :: cs) =
        .ok (c.toNat, cs) := by
      have hhigh := hexDigit?_hexDigit (show c.toNat / 16 < 16 by omega)
      have hlow := hexDigit?_hexDigit (show c.toNat % 16 < 16 by omega)
      have hzero : Text.hexDigit? '0' = some 0 := by decide
      have hvalue : ((0 * 16 + 0) * 16 + c.toNat / 16) * 16 + c.toNat % 16 = c.toNat := by omega
      simp only [hexFour, hhigh, hlow, hzero, hvalue]
    show readString (fuel + 1) g ('\\' :: 'u' :: '0' :: '0' :: hexDigit (c.toNat / 16) ::
      hexDigit (c.toNat % 16) :: cs) = _
    rw [readString, hfour]
    dsimp only
    rw [if_neg (by omega), if_neg (by omega), Char.ofNat_toNat]
  · rw [if_neg hcontrol, List.singleton_append, readString]
    · rw [if_neg hcontrol]
    all_goals
      simp [hquote, hback]

/-- The characters of a string are read back up to its closing quote. -/
theorem readString_chars (text before : List Char) {fuel : Nat} (hfuel : text.length < fuel)
    (rest : List Char) :
    readString fuel (.ok before) (text.flatMap escape ++ '"' :: rest) =
      (.string (.ok (String.ofList (before.reverse ++ text))) none, some rest) := by
  induction text generalizing before fuel with
  | nil =>
      obtain ⟨fuel, rfl⟩ := Nat.exists_eq_add_one_of_ne_zero (Nat.ne_zero_of_lt hfuel)
      rw [List.append_nil]
      rfl
  | cons c text ih =>
      obtain ⟨fuel, rfl⟩ := Nat.exists_eq_add_one_of_ne_zero (Nat.ne_zero_of_lt hfuel)
      rw [List.length_cons] at hfuel
      rw [List.flatMap_cons, List.append_assoc, readString_escape]
      show readString fuel (.ok (c :: before)) _ = _
      rw [ih (c :: before) (by omega), List.reverse_cons, List.append_assoc]
      rfl

theorem length_le_flatMap_escape (text : List Char) :
    text.length ≤ (text.flatMap escape).length := by
  induction text with
  | nil => exact Nat.le_refl _
  | cons c text ih =>
      have hpos : 0 < (escape c).length := by
        unfold escape
        repeat' split
        all_goals exact Nat.zero_lt_succ _
      rw [List.flatMap_cons, List.length_append, List.length_cons]
      omega

theorem readString_quoted (s : String) (rest : List Char) :
    ∃ more, quoted s ++ rest = '"' :: more ∧
      readString (more.length + 1) (.ok []) more = (.string (.ok s) none, some rest) := by
  refine ⟨s.toList.flatMap escape ++ '"' :: rest, ?_, ?_⟩
  · rw [quoted, List.cons_append, List.append_assoc]
    rfl
  · have hlength := length_le_flatMap_escape s.toList
    rw [readString_chars s.toList [] (by rw [List.length_append]; omega)]
    simp

/-! ## Numerals -/

/-- What follows a numeral does not go on with it. -/
def EndsNumeral (rest : List Char) : Prop :=
  ∀ c ∈ rest.head?, isDigit c = false ∧ c ≠ '.' ∧ c ≠ 'e' ∧ c ≠ 'E'

theorem takeWhile_digits {digits rest : List Char} (hdigits : ∀ c ∈ digits, isDigit c = true)
    (hrest : ∀ c ∈ rest.head?, isDigit c = false) :
    (digits ++ rest).takeWhile isDigit = digits ∧ (digits ++ rest).dropWhile isDigit = rest :=
  ⟨Text.takeWhile_eq_iff.2 ⟨rest, rfl, hdigits, hrest⟩,
    Text.dropWhile_eq_iff.2 ⟨digits, rfl, hdigits, hrest⟩⟩

/-- Without point and mark of an exponent, a numeral ends after its digits. -/
theorem readFraction_whole (n : Numeral) {rest : List Char} (hrest : EndsNumeral rest) :
    readFraction n rest = (.number n.value, some rest) := by
  cases rest with
  | nil => rfl
  | cons c rest =>
      obtain ⟨-, hpoint, he, hE⟩ := hrest c rfl
      have hexponent : readExponent n (c :: rest) = (.number n.value, some (c :: rest)) := by
        unfold readExponent
        simp [he, hE]
      unfold readFraction
      split
      · rename_i heq
        exact absurd (List.cons.inj heq).1 hpoint
      · exact hexponent

/-- The digits of a numeral: of several the first is not zero. -/
structure IsWhole (cs : List Char) : Prop where
  nonempty : cs ≠ []
  digits : ∀ c ∈ cs, isDigit c = true
  leading : cs.head? = some '0' → cs.length = 1

/-- A numeral behind its sign. -/
def readUnsigned (negative : Bool) (cs : List Char) : Tree × Option (List Char) :=
  match cs.takeWhile isDigit with
  | [] => tornNumeral cs
  | '0' :: _ :: _ => (.torn .malformed .malformed, none)
  | ds => readFraction ⟨negative, ds.map digitValue, none, none⟩ (cs.dropWhile isDigit)

theorem readNumber_minus (cs : List Char) : readNumber ('-' :: cs) = readUnsigned true cs := rfl

theorem readNumber_plain {c : Char} (hc : c ≠ '-') (cs : List Char) :
    readNumber (c :: cs) = readUnsigned false (c :: cs) := by
  unfold readNumber
  split
  rename_i heq
  split at heq
  · rename_i hminus
    exact absurd (List.cons.inj hminus).1 hc
  · obtain ⟨rfl, rfl⟩ := Prod.mk.inj heq
    rfl

theorem readUnsigned_whole (negative : Bool) {cs rest : List Char} (h : IsWhole cs)
    (hrest : EndsNumeral rest) :
    readUnsigned negative (cs ++ rest) =
      (.number (Numeral.value ⟨negative, cs.map digitValue, none, none⟩), some rest) := by
  obtain ⟨htake, hdrop⟩ := takeWhile_digits h.digits fun c hc => (hrest c hc).1
  unfold readUnsigned
  rw [htake, hdrop]
  split
  · exact absurd rfl h.nonempty
  · have hlength := h.leading rfl
    simp at hlength
  · exact readFraction_whole _ hrest

/-! ## Whole numbers -/

/-- The number of digits in the order of a numeral. -/
def ofDigits (start : Nat) (ds : List Nat) : Nat := ds.foldl (fun n d => 10 * n + d) start

theorem le_ofDigits (start : Nat) (ds : List Nat) : start ≤ ofDigits start ds := by
  induction ds generalizing start with
  | nil => exact Nat.le_refl _
  | cons d ds ih =>
      have hnext := ih (10 * start + d)
      show start ≤ ofDigits (10 * start + d) ds
      omega

/-- All digits are gathered as long as the number fits. -/
theorem gather_eq {start : Nat} {ds : List Nat} (h : ofDigits start ds < twoPow 64) :
    Numeral.gather start ds = (ofDigits start ds, []) := by
  induction ds generalizing start with
  | nil => rfl
  | cons d ds ih =>
      have hnext : 10 * start + d < twoPow 64 :=
        Nat.lt_of_le_of_lt (le_ofDigits (10 * start + d) ds) h
      rw [Numeral.gather, if_pos hnext, ih h]
      rfl

theorem ofDigits_toDigits (n : Nat) : ofDigits 0 ((Nat.toDigits 10 n).map digitValue) = n := by
  rw [ofDigits, List.foldl_map]
  exact Nat.ofDigitChars_toDigits (by decide) (by decide)

theorem head?_toDigits {n : Nat} (h : (Nat.toDigits 10 n).head? = some '0') : n = 0 := by
  induction n using Nat.strongRecOn with
  | _ n ih =>
      by_cases hsmall : n < 10
      · have hall : ∀ n < 10, (Nat.toDigits 10 n).head? = some '0' → n = 0 := by decide
        exact hall n hsmall h
      · have hdiv : n / 10 < n := by omega
        rw [Nat.toDigits_of_base_le (by decide) (by omega), List.head?_append] at h
        obtain ⟨c, cs, hcons⟩ := List.exists_cons_of_ne_nil (@Nat.toDigits_ne_nil (n / 10) 10)
        rw [hcons] at h
        have hzero : (Nat.toDigits 10 (n / 10)).head? = some '0' := by
          rw [hcons]
          exact h
        have := ih (n / 10) hdiv hzero
        omega

/-- The digits of a number are those of a numeral. -/
theorem isWhole_toDigits (n : Nat) : IsWhole (Nat.toDigits 10 n) where
  nonempty := Nat.toDigits_ne_nil
  digits := fun _ hc => Nat.isDigit_of_mem_toDigits (by decide) (by decide) hc
  leading := by
    intro hhead
    obtain rfl := head?_toDigits hhead
    rfl

theorem value_toDigits {n : Nat} (h : n < twoPow 64) :
    Numeral.value ⟨false, (Nat.toDigits 10 n).map digitValue, none, none⟩ = .ok (.int n) := by
  have hdigits := ofDigits_toDigits n
  have hgather := gather_eq (hdigits.symm ▸ h)
  rw [hdigits] at hgather
  simp [Numeral.value, hgather]

theorem value_minus_toDigits {n : Nat} (hpos : n ≠ 0) (h : n ≤ twoPow 63) :
    Numeral.value ⟨true, (Nat.toDigits 10 n).map digitValue, none, none⟩ = .ok (.int (-n)) := by
  have hdigits := ofDigits_toDigits n
  have hfits : ofDigits 0 ((Nat.toDigits 10 n).map digitValue) < twoPow 64 := by
    rw [hdigits]
    exact Nat.lt_of_le_of_lt h (by decide)
  have hgather := gather_eq hfits
  rw [hdigits] at hgather
  simp [Numeral.value, hgather, hpos, h]

/-- A whole number of at most 64 bits, with a sign or without. -/
def Number.Fits : Number → Prop
  | .int n => -(twoPow 63 : Int) ≤ n ∧ n < twoPow 64
  | .float _ => True

theorem numberChars_nat (m : Nat) : numberChars (.int m) = Nat.toDigits 10 m := Nat.toList_repr

theorem numberChars_minus {m : Nat} (h : m ≠ 0) :
    numberChars (.int (-m)) = '-' :: Nat.toDigits 10 m := by
  have htext : toString (-(m : Int)) = "-" ++ m.repr := by
    rw [Int.toString_eq_repr, Int.repr_eq_if, if_neg (by omega), Int.neg_neg, Int.toNat_natCast]
  rw [numberChars, htext, String.toList_append, Nat.toList_repr]
  rfl

/-- A whole number is read back from its text. -/
theorem readNumber_int {n : Int} (h : (Number.int n).Fits) {rest : List Char}
    (hrest : EndsNumeral rest) :
    readNumber (numberChars (.int n) ++ rest) = (.number (.ok (.int n)), some rest) := by
  obtain ⟨hlow, hhigh⟩ := h
  by_cases hsign : 0 ≤ n
  · obtain ⟨m, rfl⟩ := Int.eq_ofNat_of_zero_le hsign
    have hwhole := isWhole_toDigits m
    obtain ⟨c, cs, hcons⟩ := List.exists_cons_of_ne_nil hwhole.nonempty
    have hc : c ≠ '-' := by
      rintro rfl
      exact absurd (hwhole.digits _ (hcons ▸ List.mem_cons_self)) (by decide)
    have hread := readUnsigned_whole false hwhole hrest
    rw [value_toDigits (Int.ofNat_lt.1 hhigh)] at hread
    rw [numberChars_nat, hcons, List.cons_append, readNumber_plain hc]
    rwa [hcons] at hread
  · obtain ⟨m, rfl⟩ : ∃ m : Nat, n = -m := ⟨n.natAbs, by omega⟩
    have hpos : m ≠ 0 := by omega
    have hread := readUnsigned_whole true (isWhole_toDigits m) hrest
    rw [value_minus_toDigits hpos (by omega)] at hread
    rw [numberChars_minus hpos, List.cons_append, readNumber_minus]
    exact hread

theorem skipSpace_cons {c : Char} (h : isSpace c = false) (cs : List Char) :
    skipSpace (c :: cs) = c :: cs := List.dropWhile_cons_of_neg (by simp [h])

/-- The first character of a numeral. -/
def StartsNumeral (c : Char) : Prop := c = '-' ∨ isDigit c = true

theorem StartsNumeral.ne {c d : Char} (h : StartsNumeral c) (hminus : d ≠ '-')
    (hdigit : isDigit d = false) : c ≠ d := by
  rintro rfl
  rcases h with rfl | hdigit'
  · exact hminus rfl
  · rw [hdigit] at hdigit'
    cases hdigit'

theorem StartsNumeral.not_space {c : Char} (h : StartsNumeral c) : isSpace c = false := by
  simp [isSpace, h.ne (d := ' ') (by decide) (by decide), h.ne (d := '\n') (by decide) (by decide),
    h.ne (d := '\t') (by decide) (by decide), h.ne (d := '\r') (by decide) (by decide)]

theorem numberChars_head (n : Int) : ∃ c cs, numberChars (.int n) = c :: cs ∧ StartsNumeral c := by
  have hdigits : ∀ m : Nat, ∃ c cs, Nat.toDigits 10 m = c :: cs ∧ isDigit c = true := by
    intro m
    have hwhole := isWhole_toDigits m
    obtain ⟨c, cs, hcons⟩ := List.exists_cons_of_ne_nil hwhole.nonempty
    exact ⟨c, cs, hcons, hwhole.digits c (hcons ▸ List.mem_cons_self)⟩
  by_cases hsign : 0 ≤ n
  · obtain ⟨m, rfl⟩ := Int.eq_ofNat_of_zero_le hsign
    obtain ⟨c, cs, hcons, hc⟩ := hdigits m
    exact ⟨c, cs, (numberChars_nat m).trans hcons, .inr hc⟩
  · obtain ⟨m, rfl⟩ : ∃ m : Nat, n = -m := ⟨n.natAbs, by omega⟩
    exact ⟨'-', _, numberChars_minus (by omega), .inl rfl⟩

end HostAgent.Json
