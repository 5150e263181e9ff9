import HostAgent.Time.Reading

/-!
# Written timestamps are read back

The relaxed reader reads every timestamp from its written form: years outside four
digits with their sign, a leap second as the second 60, and a fraction of no, three,
six or nine digits. Each field is followed by a character that is no digit, except
where it has all the digits that the reader takes; so the reader stops where the
field ends.

## Main results

* `number?_padded`: a padded number is read back.
* `year?_yearChars`, `fraction?_fractionChars`: the parts whose width varies.
* `read?_render`: a timestamp is read back.
-/

namespace HostAgent.Timestamp

/-! ## Digits -/

theorem digit_bounds {c : Char} (h : c.isDigit = true) : 48 ≤ c.toNat ∧ c.toNat ≤ 57 := by
  have hbounds : (decide (c.val ≥ 48) && decide (c.val ≤ 57)) = true := h
  rw [Bool.and_eq_true, decide_eq_true_iff, decide_eq_true_iff] at hbounds
  exact hbounds

theorem digit?_of_isDigit {c : Char} (h : c.isDigit = true) :
    digit? c = some (c.toNat - '0'.toNat) := by
  have hrange : '0' ≤ c ∧ c ≤ '9' := digit_bounds h
  rw [digit?, if_pos hrange]

/-- A text does not go on with a digit. -/
def NoDigit (rest : List Char) : Prop := ∀ c ∈ rest.head?, digit? c = none

/-- Digits are taken up to the first character that is none, or up to the limit. -/
theorem leadingDigits_digits {most : Nat} {cs rest : List Char}
    (hdigits : ∀ c ∈ cs, c.isDigit = true) (hlength : cs.length ≤ most)
    (hend : cs.length = most ∨ NoDigit rest) :
    leadingDigits most (cs ++ rest) = (cs.map fun c => c.toNat - '0'.toNat, rest) := by
  induction cs generalizing most with
  | nil =>
      cases most with
      | zero => rfl
      | succ most =>
          have hrest : NoDigit rest := by
            rcases hend with hzero | hrest
            · cases hzero
            · exact hrest
          cases rest with
          | nil => rfl
          | cons c rest =>
              have hc : digit? c = none := hrest c rfl
              show leadingDigits (most + 1) (c :: rest) = _
              rw [leadingDigits, hc]
              rfl
  | cons c cs ih =>
      rw [List.length_cons] at hlength hend
      obtain ⟨most, rfl⟩ : ∃ m, most = m + 1 := ⟨most - 1, by omega⟩
      have hrest : cs.length = most ∨ NoDigit rest := hend.imp (fun heq => by omega) id
      have hmore := ih (fun d hd => hdigits d (List.mem_cons_of_mem _ hd)) (by omega) hrest
      rw [List.cons_append, leadingDigits, digit?_of_isDigit (hdigits c List.mem_cons_self), hmore]
      rfl

theorem ofDigits_padded (width n : Nat) :
    ofDigits ((padded width n).map fun c => c.toNat - '0'.toNat) = n := by
  have hzeros : ∀ zeros, Nat.ofDigitChars 10 (List.replicate zeros '0') 0 = 0 := by
    intro zeros
    induction zeros with
    | zero => rfl
    | succ zeros ih => exact ih
  have hdigits : Nat.ofDigitChars 10 (Nat.toDigits 10 n) 0 = n :=
    Nat.ofDigitChars_toDigits (by decide) (by decide)
  show ((padded width n).map fun c => c.toNat - '0'.toNat).foldl (fun acc d => 10 * acc + d) 0 = n
  rw [List.foldl_map, padded, List.foldl_append]
  show Nat.ofDigitChars 10 (Nat.toDigits 10 n) (Nat.ofDigitChars 10 (List.replicate _ '0') 0) = n
  rw [hzeros, hdigits]

theorem isDigit_padded (width n : Nat) : ∀ c ∈ padded width n, c.isDigit = true := by
  intro c hc
  rcases List.mem_append.1 hc with hzero | hdigit
  · rw [List.eq_of_mem_replicate hzero]
    rfl
  · exact Nat.isDigit_of_mem_toDigits (by decide) (by decide) hdigit

theorem length_padded (width n : Nat) : width ≤ (padded width n).length := by
  rw [padded, List.length_append, List.length_replicate]
  omega

/-- A number below a power of ten is padded to that many digits. -/
theorem length_padded_of_lt {width n : Nat} (hwidth : 0 < width) (h : n < tenPow width) :
    (padded width n).length = width := by
  have hdigits : (Nat.toDigits 10 n).length ≤ width :=
    (Nat.length_toDigits_le_iff (by decide) hwidth).2 h
  rw [padded, List.length_append, List.length_replicate]
  omega

/-- A padded number is read back. -/
theorem number?_padded {least most width n : Nat} {rest : List Char} (hleast : least ≤ width)
    (hmost : (padded width n).length ≤ most)
    (hend : (padded width n).length = most ∨ NoDigit rest) :
    number? least most (padded width n ++ rest) = some (n, rest) := by
  have hlength := length_padded width n
  have hread := leadingDigits_digits (isDigit_padded width n) hmost hend
  unfold number?
  rw [hread]
  dsimp only
  rw [List.length_map, if_pos (by omega), ofDigits_padded]

/-! ## Fields -/

theorem dropBlanks_cons {c : Char} (h : Text.isBlank c = false) (cs : List Char) :
    dropBlanks (c :: cs) = c :: cs := List.dropWhile_cons_of_neg (by simp [h])

theorem not_blank_of_isDigit {c : Char} (h : c.isDigit = true) : Text.isBlank c = false := by
  have hbounds := digit_bounds h
  simp [Text.isBlank]
  omega

theorem padded_cons {width n : Nat} (hwidth : 0 < width) :
    ∃ c cs, padded width n = c :: cs ∧ c.isDigit = true := by
  have hlength := length_padded width n
  obtain ⟨c, cs, hcons⟩ :=
    List.exists_cons_of_length_pos (show 0 < (padded width n).length by omega)
  exact ⟨c, cs, hcons, isDigit_padded width n c (hcons ▸ List.mem_cons_self)⟩

/-- A field of two digits is read back, whatever follows. -/
theorem field?_padded {n : Nat} (h : n < 100) (rest : List Char) :
    field? (padded 2 n ++ rest) = some (n, rest) := by
  have hlength : (padded 2 n).length = 2 := length_padded_of_lt (by decide) h
  obtain ⟨c, cs, hcons, hc⟩ := padded_cons (n := n) (show 0 < 2 by decide)
  have hread : number? 1 2 (padded 2 n ++ rest) = some (n, rest) :=
    number?_padded (by decide) (by omega) (.inl hlength)
  have hblank : dropBlanks (padded 2 n ++ rest) = padded 2 n ++ rest := by
    rw [hcons]
    exact dropBlanks_cons (not_blank_of_isDigit hc) _
  rw [field?, hblank, hread]

theorem mark?_cons {c : Char} (h : Text.isBlank c = false) (rest : List Char) :
    mark? c (c :: rest) = some rest := by
  rw [mark?, dropBlanks_cons h, char?, if_pos rfl]

theorem noDigit_cons {c : Char} (h : digit? c = none) (rest : List Char) : NoDigit (c :: rest) := by
  intro d hd
  obtain rfl : c = d := Option.some.inj hd
  exact h

/-- A year is read back: in four digits, or with a sign. -/
theorem year?_yearChars (year : Int) (rest : List Char) :
    year? (yearChars year ++ '-' :: rest) = some (year, '-' :: rest) := by
  have hminus : NoDigit ('-' :: rest) := noDigit_cons (by decide) rest
  have hsigned : ∀ n, number? 1 (padded 4 n ++ '-' :: rest).length (padded 4 n ++ '-' :: rest) =
      some (n, '-' :: rest) := by
    intro n
    refine number?_padded (by decide) ?_ (.inr hminus)
    rw [List.length_append]
    omega
  unfold yearChars
  split
  · rename_i hrange
    have hlt : year.toNat < 10000 := by omega
    have hlength : (padded 4 year.toNat).length = 4 := length_padded_of_lt (by decide) hlt
    obtain ⟨c, cs, hcons, hc⟩ := padded_cons (n := year.toNat) (show 0 < 4 by decide)
    have hread :
        number? 1 4 (padded 4 year.toNat ++ '-' :: rest) = some (year.toNat, '-' :: rest) :=
      number?_padded (by decide) (by omega) (.inl hlength)
    have hne : ∀ d : Char, d.isDigit = false → c ≠ d := by
      rintro d hd rfl
      rw [hc] at hd
      cases hd
    have hyear : (year.toNat : Int) = year := by omega
    rw [hcons, List.cons_append] at hread ⊢
    unfold year?
    rw [dropBlanks_cons (not_blank_of_isDigit hc)]
    split
    · rename_i heq
      exact absurd (List.cons.inj heq).1 (hne '-' (by decide))
    · rename_i heq
      exact absurd (List.cons.inj heq).1 (hne '+' (by decide))
    · rw [hread]
      exact congrArg (fun y : Int => some (y, '-' :: rest)) hyear
  · rename_i hrange
    by_cases hneg : year < 0
    · have hyear : -(year.natAbs : Int) = year := by omega
      rw [if_pos hneg, List.cons_append]
      show (number? 1 _ (padded 4 year.natAbs ++ '-' :: rest)).map _ = _
      rw [hsigned]
      exact congrArg (fun y : Int => some (y, '-' :: rest)) hyear
    · have hyear : (year.natAbs : Int) = year := by omega
      rw [if_neg hneg, List.cons_append]
      show (number? 1 _ (padded 4 year.natAbs ++ '-' :: rest)).map _ = _
      rw [hsigned]
      exact congrArg (fun y : Int => some (y, '-' :: rest)) hyear

/-- Digits behind the point are read back with the zeros that they leave out. -/
theorem fraction?_padded {width n : Nat} (hwidth : 0 < width) (hmost : width ≤ 9)
    (h : n < tenPow width) :
    fraction? ('.' :: (padded width n ++ ['Z'])) = some (n * tenPow (9 - width), ['Z']) := by
  have hlength := length_padded_of_lt hwidth h
  have hend : NoDigit ['Z'] := noDigit_cons (by decide) []
  have hread := leadingDigits_digits (isDigit_padded width n) (show _ ≤ 9 by omega) (.inr hend)
  obtain ⟨c, cs, hcons, hc⟩ := padded_cons (n := n) hwidth
  have hdigits := ofDigits_padded width n
  rw [hcons, List.map_cons] at hread hdigits
  have hdrop : ['Z'].dropWhile (fun c => (digit? c).isSome) = ['Z'] := by decide
  rw [hcons] at hlength
  rw [hcons]
  simp only [fraction?, hread, hdrop, hdigits, List.length_cons, List.length_map]
  rw [List.length_cons] at hlength
  rw [hlength]

/-- A fraction is read back from its groups of three digits. -/
theorem fraction?_fractionChars {nanos : Nat} (h : nanos < tenPow 9) :
    fraction? (fractionChars nanos ++ ['Z']) = some (nanos, ['Z']) := by
  unfold fractionChars
  by_cases hzero : nanos = 0
  · rw [if_pos hzero, hzero]
    rfl
  rw [if_neg hzero]
  by_cases hsix : nanos % tenPow 6 = 0
  · have hlt : nanos / tenPow 6 < tenPow 3 := Nat.div_lt_of_lt_mul h
    have hvalue : nanos / tenPow 6 * tenPow 6 = nanos :=
      Nat.div_mul_cancel (Nat.dvd_of_mod_eq_zero hsix)
    rw [if_pos hsix, List.cons_append, fraction?_padded (by decide) (by decide) hlt, hvalue]
  rw [if_neg hsix]
  by_cases hthree : nanos % tenPow 3 = 0
  · have hlt : nanos / tenPow 3 < tenPow 6 := Nat.div_lt_of_lt_mul h
    have hvalue : nanos / tenPow 3 * tenPow 3 = nanos :=
      Nat.div_mul_cancel (Nat.dvd_of_mod_eq_zero hthree)
    rw [if_pos hthree, List.cons_append, fraction?_padded (by decide) (by decide) hlt, hvalue]
  · have hvalue : nanos * tenPow 0 = nanos := Nat.mul_one nanos
    rw [if_neg hthree, List.cons_append, fraction?_padded (by decide) (by decide) h, hvalue]

/-! ## Timestamps -/

/-- Only the twelve months have days, and no more than 31. -/
theorem daysIn_bounds {year : Int} {month : Nat} (h : 0 < Calendar.daysIn year month) :
    month ≤ 12 ∧ Calendar.daysIn year month ≤ 31 := by
  revert h
  unfold Calendar.daysIn
  split
  · split <;> omega
  all_goals omega

theorem earlier_zero {t : DateTime} (h : t.Valid) : t.earlier 0 = t := by
  obtain ⟨date, hour, minute, second, nanos⟩ := t
  obtain ⟨-, hhour, hminute, -, -⟩ := h
  change hour < 24 at hhour
  change minute < 60 at hminute
  have hlow : ¬ ((hour : Int) * 60 + minute - 0 < 0) := by omega
  have hhigh : ¬ (1440 ≤ (hour : Int) * 60 + minute - 0) := by omega
  have hminutes : (((hour : Int) * 60 + minute - 0) % 1440).toNat = hour * 60 + minute := by omega
  have hdiv : (hour * 60 + minute) / 60 = hour := by omega
  have hmod : (hour * 60 + minute) % 60 = minute := by omega
  simp only [DateTime.earlier, hminutes, if_neg hlow, if_neg hhigh, hdiv, hmod]

/-- A valid time in the zone of universal time is a timestamp. -/
theorem ofLocal?_zero (t : Timestamp) : ofLocal? t.time 0 = some t := by
  have hvalid : t.time.Valid ∧ -1440 < (0 : Int) ∧ (0 : Int) < 1440 :=
    ⟨t.valid, by decide, by decide⟩
  rw [ofLocal?, if_pos hvalid]
  simp only [earlier_zero t.valid]
  exact dif_pos t.valid

/-- A timestamp is read back from its written form. -/
theorem read?_render (t : Timestamp) : read? t.render = some t := by
  obtain ⟨⟨-, -, hfirst, hlast⟩, hhour, hminute, hsecond, hnanos⟩ := t.valid
  obtain ⟨hmonth, hdays⟩ := daysIn_bounds (show 0 < _ from Nat.lt_of_lt_of_le hfirst hlast)
  have htext : t.render.toList = t.toChars := String.toList_ofList
  have hdash := mark?_cons (c := '-') (by decide)
  have hcolon := mark?_cons (c := ':') (by decide)
  have hzone : namedZone? (dropBlanks ['Z']) = some (0, []) := by decide
  have hT : ∀ rest, dateEnd? ('T' :: rest) = some rest := fun _ => rfl
  have hlocal := ofLocal?_zero t
  unfold read?
  simp only [htext, toChars, List.append_assoc, List.cons_append, year?_yearChars, hdash, hcolon,
    field?_padded (show t.time.date.month < 100 by omega),
    field?_padded (show t.time.date.day < 100 by omega),
    field?_padded (show t.time.hour < 100 by omega),
    field?_padded (show t.time.minute < 100 by omega),
    field?_padded (show t.time.second < 100 by omega),
    fraction?_fractionChars hnanos, hT, hzone, Option.bind_eq_bind, Option.bind_some]
  exact hlocal

end HostAgent.Timestamp
