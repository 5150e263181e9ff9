/-!
# Blank characters and trimming

The Unicode property `White_Space` as a table, and the functions that cut a
text at its blanks or at a given character. Everything here works on
`List Char`, so that what is kept and what is dropped can be said with the
library's `takeWhile` and `dropWhile`; the `String` versions only convert.

## Main results

* `isBlank_of_isWhitespace`: every character core calls white space is blank.
* `after?_eq_some_iff`, `isWithin_iff`: what it means to begin with a text and to hold it.
* `takeWhile_eq_iff`, `dropWhile_eq_iff`, `trimBoth_eq_iff`: what is left of a text that is cut.
* `cutAt_eq_some_iff`, `cutAt_eq_none_iff`: the two parts of a text that is cut at a character.
-/

namespace HostAgent.Text

/-- The Unicode property `White_Space` (25 code points). -/
def isBlank (c : Char) : Bool :=
  let n := c.toNat
  (0x09 ≤ n && n ≤ 0x0D) || n == 0x20 || n == 0x85 || n == 0xA0 || n == 0x1680 ||
  (0x2000 ≤ n && n ≤ 0x200A) || n == 0x2028 || n == 0x2029 || n == 0x202F ||
  n == 0x205F || n == 0x3000

theorem isBlank_of_isWhitespace (c : Char) (h : c.isWhitespace = true) :
    isBlank c = true := by
  simp only [Char.isWhitespace, Bool.or_eq_true, decide_eq_true_eq] at h
  rcases h with ((rfl | rfl) | rfl) | rfl <;> decide

/-- Drop the characters that satisfy `p` from both ends. -/
def trimBoth (p : Char → Bool) (cs : List Char) : List Char :=
  ((cs.dropWhile p).reverse.dropWhile p).reverse

/-- The text without the blanks at its two ends. -/
def trim (s : String) : String :=
  String.ofList (trimBoth isBlank s.toList)

/-- The text without the occurrences of `c` at its start. -/
def dropLeading (c : Char) (s : String) : String :=
  String.ofList (s.toList.dropWhile (· == c))

/-- The characters before the first `c`, and those after it if there is one. -/
def cutAt (c : Char) (cs : List Char) : List Char × Option (List Char) :=
  match cs.dropWhile (· != c) with
  | [] => (cs.takeWhile (· != c), none)
  | _ :: rest => (cs.takeWhile (· != c), some rest)

/-- The rest of `cs` after `start`, when `cs` begins with it. -/
def after? : List Char → List Char → Option (List Char)
  | [], cs => some cs
  | _ :: _, [] => none
  | x :: xs, c :: cs => if x = c then after? xs cs else none

/-- The rest of the text after `start`, when the text begins with it. -/
def stripStart? (start s : String) : Option String :=
  (after? start.toList s.toList).map String.ofList

/-- Does the text begin with `start`? -/
def startsWith (start s : String) : Bool :=
  (after? start.toList s.toList).isSome

/-- Are `xs` the start of some end of a text? -/
def isWithin (xs : List Char) : List Char → Bool
  | [] => xs.isEmpty
  | c :: cs => (after? xs (c :: cs)).isSome || isWithin xs cs

/-- Does `part` occur in the text? -/
def occursIn (part s : String) : Bool := isWithin part.toList s.toList

/-- Upper-case ASCII letters become lower case; all else stays. -/
def asciiLower (s : String) : String :=
  String.ofList (s.toList.map Char.toLower)

/-- A text that is there and not empty. -/
def nonEmpty? (text : Option String) : Option String := text.filter (· ≠ "")

theorem after?_eq_some_iff {xs cs rest : List Char} :
    after? xs cs = some rest ↔ cs = xs ++ rest := by
  induction xs generalizing cs with
  | nil => simp [after?]
  | cons x xs ih =>
    cases cs with
    | nil => simp [after?]
    | cons c cs =>
      by_cases h : x = c
      · subst h; simp [after?, ih]
      · simp [after?, h, Ne.symm h]

theorem isWithin_iff {xs cs : List Char} : isWithin xs cs = true ↔ xs <:+: cs := by
  induction cs with
  | nil => simp [isWithin]
  | cons c cs ih =>
    rw [isWithin, Bool.or_eq_true, ih, Option.isSome_iff_exists, List.infix_cons_iff]
    simp only [after?_eq_some_iff, List.prefix_iff_exists_eq_append]

/-! ## Cut texts -/

variable {p : Char → Bool} {cs kept : List Char}

/-- What is dropped is a start of characters that satisfy `p`, up to one that does not. -/
theorem dropWhile_eq_iff {rest : List Char} : cs.dropWhile p = rest ↔
    ∃ front, cs = front ++ rest ∧ (∀ c ∈ front, p c = true) ∧ ∀ c ∈ rest.head?, p c = false := by
  constructor
  · rintro rfl
    refine ⟨cs.takeWhile p, List.takeWhile_append_dropWhile.symm,
      List.all_eq_true.1 List.all_takeWhile, ?_⟩
    intro c hc
    have hstop := List.head?_dropWhile_not p cs
    rw [Option.mem_def.1 hc] at hstop
    exact hstop
  · rintro ⟨front, rfl, hfront, hstop⟩
    rw [List.dropWhile_append_of_pos hfront]
    cases rest with
    | nil => rfl
    | cons c rest => exact List.dropWhile_cons_of_neg (by simp [hstop c rfl])

theorem takeWhile_eq_iff : cs.takeWhile p = kept ↔
    ∃ rest, cs = kept ++ rest ∧ (∀ c ∈ kept, p c = true) ∧ ∀ c ∈ rest.head?, p c = false := by
  constructor
  · rintro rfl
    obtain ⟨-, -, -, hstop⟩ : ∃ front, cs = front ++ cs.dropWhile p ∧ _ ∧ _ :=
      dropWhile_eq_iff.1 rfl
    exact ⟨_, List.takeWhile_append_dropWhile.symm, List.all_eq_true.1 List.all_takeWhile, hstop⟩
  · rintro ⟨rest, rfl, hkept, hstop⟩
    rw [List.takeWhile_append_of_pos hkept]
    cases rest with
    | nil => rw [List.takeWhile_nil, List.append_nil]
    | cons c rest => rw [List.takeWhile_cons_of_neg (by simp [hstop c rfl]), List.append_nil]

/-- The characters of two texts with a mark between them. -/
theorem toList_joined (front back : String) (c : Char) :
    (front ++ String.singleton c ++ back).toList = front.toList ++ c :: back.toList := by
  simp

theorem cutAt_eq_some_iff {c : Char} {rest : List Char} :
    cutAt c cs = (kept, some rest) ↔ cs = kept ++ c :: rest ∧ c ∉ kept := by
  constructor
  · intro h
    unfold cutAt at h
    split at h
    · cases h
    · rename_i d rest' hdrop
      obtain ⟨rfl, hrest⟩ := Prod.mk.inj h
      obtain rfl := Option.some.inj hrest
      obtain rfl : d = c := by simpa [hdrop] using List.head?_dropWhile_not (· != c) cs
      refine ⟨?_, ?_⟩
      · rw [← hdrop, List.takeWhile_append_dropWhile]
      · intro hmem
        simpa using List.all_eq_true.1 (@List.all_takeWhile _ (· != d) cs) d hmem
  · rintro ⟨rfl, hkept⟩
    have hfront : ∀ d ∈ kept, (d != c) = true := by
      intro d hd
      rw [bne_iff_ne]
      rintro rfl
      exact hkept hd
    have hdrop : (kept ++ c :: rest).dropWhile (· != c) = c :: rest :=
      dropWhile_eq_iff.2 ⟨kept, rfl, hfront, by simp⟩
    have htake : (kept ++ c :: rest).takeWhile (· != c) = kept :=
      takeWhile_eq_iff.2 ⟨c :: rest, rfl, hfront, by simp⟩
    rw [cutAt, hdrop, htake]

theorem cutAt_eq_none_iff {c : Char} : cutAt c cs = (kept, none) ↔ kept = cs ∧ c ∉ cs := by
  unfold cutAt
  split
  · rename_i hdrop
    obtain ⟨front, hcs, hfront, -⟩ := dropWhile_eq_iff.1 hdrop
    rw [List.append_nil] at hcs
    subst hcs
    have htake : cs.takeWhile (· != c) = cs :=
      takeWhile_eq_iff.2 ⟨[], (List.append_nil cs).symm, hfront, nofun⟩
    have hnot : c ∉ cs := fun hmem => by simpa using hfront c hmem
    simp [htake, hnot, eq_comm]
  · rename_i d rest hdrop
    have hmem : d ∈ cs := (List.dropWhile_sublist _).subset (hdrop ▸ List.mem_cons_self)
    obtain rfl : d = c := by simpa [hdrop] using List.head?_dropWhile_not (· != c) cs
    simp [hmem]

/-- What is left begins and ends with characters that do not satisfy `p`. -/
theorem trimBoth_eq_iff : trimBoth p cs = kept ↔
    ∃ front back, cs = front ++ kept ++ back ∧ (∀ c ∈ front ++ back, p c = true) ∧
      (∀ c ∈ kept.head?, p c = false) ∧ ∀ c ∈ kept.getLast?, p c = false := by
  have hends : trimBoth p cs = kept ↔ ∃ back front, cs = front ++ (kept ++ back) ∧
      (∀ c ∈ front, p c = true) ∧ (∀ c ∈ (kept ++ back).head?, p c = false) ∧
      (∀ c ∈ back, p c = true) ∧ ∀ c ∈ kept.getLast?, p c = false := by
    rw [trimBoth, List.reverse_eq_iff, dropWhile_eq_iff]
    constructor
    · rintro ⟨back, hback, hall, hlast⟩
      rw [List.reverse_eq_iff, List.reverse_append, List.reverse_reverse] at hback
      obtain ⟨front, hcs, hfront, hhead⟩ := dropWhile_eq_iff.1 hback
      exact ⟨back.reverse, front, hcs, hfront, hhead, by simpa using hall,
        by simpa [List.head?_reverse] using hlast⟩
    · rintro ⟨back, front, hcs, hfront, hhead, hall, hlast⟩
      refine ⟨back.reverse, ?_, by simpa using hall, by simpa [List.head?_reverse] using hlast⟩
      rw [dropWhile_eq_iff.2 ⟨front, hcs, hfront, hhead⟩, List.reverse_append]
  rw [hends]
  constructor
  · rintro ⟨back, front, rfl, hfront, hhead, hback, hlast⟩
    refine ⟨front, back, (List.append_assoc ..).symm, ?_, ?_, hlast⟩
    · intro c hc
      exact (List.mem_append.1 hc).elim (hfront c) (hback c)
    · intro c hc
      exact hhead c (by rw [List.head?_append, Option.mem_def.1 hc]; rfl)
  · rintro ⟨front, back, rfl, hall, hhead, hlast⟩
    have hfront : ∀ c ∈ front, p c = true := fun c hc => hall c (List.mem_append_left _ hc)
    have hback : ∀ c ∈ back, p c = true := fun c hc => hall c (List.mem_append_right _ hc)
    cases kept with
    | nil => exact ⟨[], front ++ back, by simp, hall, by simp, by simp, by simp⟩
    | cons c kept => exact ⟨back, front, List.append_assoc .., hfront, hhead, hback, hlast⟩

end HostAgent.Text
