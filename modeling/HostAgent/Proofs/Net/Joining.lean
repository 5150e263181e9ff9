import HostAgent.Net.Url

/-!
# Joining a path to a base

A text that is led by a word, such as `containers/` and then anything at all, is
always a path relative to the base: the word ends in a slash before a colon
could make a scheme of it, and it keeps the text from beginning with a slash or
with a mark. So whatever follows the word decides path, query and fragment of
the address, and never its scheme or its authority.

## Main results

* `cleaned_of_led`: what does not count in a text leaves the word in front alone.
* `scheme?_of_led`: a text led by a word has no scheme.
* `join_path`: the address that a text without scheme means relative to a base.
* `join_led`, `join_of_led`: the same of a text led by a word.
-/

namespace HostAgent.Url

/-- A word of small letters leads the text, and if anything follows the word, it is a slash. -/
def Led (cs : List Char) : Prop :=
  ∃ c word rest, cs = c :: word ++ rest ∧ (∀ d ∈ c :: word, d.isLower = true) ∧
    ∀ d ∈ rest.head?, d = '/'

/-- Said with truth values, so that it is decided the same way whichever instances are known. -/
theorem led_iff {cs : List Char} : Led cs ↔
    (cs.takeWhile Char.isLower).isEmpty = false ∧
      (cs.dropWhile Char.isLower).head?.all (· == '/') = true := by
  simp only [List.isEmpty_eq_false_iff, Option.all_eq_true, beq_iff_eq]
  constructor
  · rintro ⟨c, word, rest, rfl, hlower, hrest⟩
    have hstop : ∀ d ∈ rest.head?, d.isLower = false := fun d hd => hrest d hd ▸ by decide
    have htake : (c :: word ++ rest).takeWhile Char.isLower = c :: word :=
      Text.takeWhile_eq_iff.2 ⟨rest, rfl, hlower, hstop⟩
    have hdrop : (c :: word ++ rest).dropWhile Char.isLower = rest :=
      Text.dropWhile_eq_iff.2 ⟨c :: word, rfl, hlower, hstop⟩
    rw [htake, hdrop]
    exact ⟨List.cons_ne_nil c word, hrest⟩
  · rintro ⟨hword, hrest⟩
    obtain ⟨c, word, hcons⟩ := List.exists_cons_of_ne_nil hword
    refine ⟨c, word, _, ?_, ?_, hrest⟩
    · rw [← hcons, List.takeWhile_append_dropWhile]
    · rw [← hcons]
      exact List.all_eq_true.1 List.all_takeWhile

instance (cs : List Char) : Decidable (Led cs) := decidable_of_iff _ led_iff.symm

/-- What follows the slash may be anything. -/
theorem led_append {front : List Char} (h : Led front) (hslash : '/' ∈ front) (more : List Char) :
    Led (front ++ more) := by
  obtain ⟨c, word, rest, rfl, hlower, hrest⟩ := h
  refine ⟨c, word, rest ++ more, List.append_assoc .., hlower, ?_⟩
  have hword : '/' ∉ c :: word := fun hmem => absurd (hlower _ hmem) (by decide)
  have hin : '/' ∈ rest := (List.mem_append.1 hslash).resolve_left hword
  obtain ⟨d, rest, rfl⟩ := List.exists_cons_of_ne_nil (List.ne_nil_of_mem hin)
  exact hrest

/-- Small letters are neither blanks nor controls, and no marks. -/
theorem lower_bounds {c : Char} (h : c.isLower = true) : 0x61 ≤ c.toNat ∧ c.toNat ≤ 0x7A := by
  have hrange : (decide (c.val ≥ 97) && decide (c.val ≤ 122)) = true := h
  rw [Bool.and_eq_true, decide_eq_true_iff, decide_eq_true_iff] at hrange
  exact ⟨hrange.1, hrange.2⟩

theorem ne_of_lower {c d : Char} (h : c.isLower = true) (hd : d.isLower = false) : c ≠ d := by
  rintro rfl
  rw [h] at hd
  cases hd

theorem isAnySlash_of_lower {c : Char} (h : c.isLower = true) : isAnySlash c = false := by
  simp [isAnySlash, ne_of_lower h (show '/'.isLower = false by decide),
    ne_of_lower h (show '\\'.isLower = false by decide)]

/-! ## Cleaning -/

/-- What is cut off a text at its ends does not reach the word in front. -/
theorem led_trimBoth {p : Char → Bool} (hp : ∀ c, c.isLower = true → p c = false) {cs : List Char}
    (h : Led cs) : Led (Text.trimBoth p cs) := by
  obtain ⟨c, word, rest, rfl, hlower, hrest⟩ := h
  obtain ⟨front, back, hcut, hends, -, -⟩ :=
    Text.trimBoth_eq_iff.1 (rfl : Text.trimBoth p (c :: word ++ rest) = _)
  have hfront : front = [] := by
    cases front with
    | nil => rfl
    | cons d front =>
        obtain ⟨rfl, -⟩ := List.cons.inj hcut
        have hc : p c = true := hends c List.mem_cons_self
        rw [hp c (hlower c List.mem_cons_self)] at hc
        cases hc
  subst hfront
  rcases List.append_eq_append_iff.1 hcut with ⟨more, hkept, rfl⟩ | ⟨more, hword, hback⟩
  · refine ⟨c, word, more, hkept, hlower, fun d hd => hrest d ?_⟩
    rw [List.head?_append, Option.mem_def.1 hd]
    rfl
  · have hmore : more = [] := by
      refine List.eq_nil_iff_forall_not_mem.2 fun d hd => ?_
      have hblank : p d = true := hends d (by simp [hback, hd])
      rw [hp d (hlower d (hword ▸ List.mem_append_right _ hd))] at hblank
      cases hblank
    subst hmore
    exact ⟨c, word, [], by simpa using hword.symm, hlower, by simp⟩

/-- Dropping characters other than letters and slashes leaves the word in front alone. -/
theorem led_filter {p : Char → Bool} (hp : ∀ c, c.isLower = true → p c = true)
    (hslash : p '/' = true) {cs : List Char} (h : Led cs) : Led (cs.filter p) := by
  obtain ⟨c, word, rest, rfl, hlower, hrest⟩ := h
  have hword : (c :: word).filter p = c :: word :=
    List.filter_eq_self.2 fun d hd => hp d (hlower d hd)
  refine ⟨c, word, rest.filter p, by rw [List.filter_append, hword], hlower, ?_⟩
  cases rest with
  | nil => simp
  | cons d rest =>
      obtain rfl : d = '/' := hrest d rfl
      simp [hslash]

theorem cleaned_of_led {text : String} (h : Led text.toList) : Led (cleaned text) := by
  refine led_filter ?_ (by decide) (led_trimBoth ?_ h)
  · intro c hc
    simp [ne_of_lower hc (show '\t'.isLower = false by decide),
      ne_of_lower hc (show '\n'.isLower = false by decide),
      ne_of_lower hc (show '\r'.isLower = false by decide)]
  · intro c hc
    have := (lower_bounds hc).1
    exact decide_eq_false (by omega)

theorem dropLeading_of_led {text : String} (h : Led text.toList) :
    Text.dropLeading '/' text = text := by
  obtain ⟨c, word, rest, htext, hlower, -⟩ := h
  have hc : c ≠ '/' := ne_of_lower (hlower c List.mem_cons_self) (by decide)
  rw [Text.dropLeading, htext]
  refine String.toList_inj.1 ?_
  rw [String.toList_ofList, htext]
  exact List.dropWhile_cons_of_neg (by simpa using hc)

/-! ## Reading -/

/-- The word ends before a colon could end it. -/
theorem scheme?_of_led {cs : List Char} (h : Led cs) : scheme? cs = none := by
  obtain ⟨c, word, rest, rfl, hlower, hrest⟩ := h
  have hword : ∀ d ∈ c :: word,
      (d.isAlphanum || d == '+' || d == '-' || d == '.') = true := by
    intro d hd
    show (d.isUpper || d.isLower || d.isDigit || d == '+' || d == '-' || d == '.') = true
    simp [hlower d hd]
  have hdrop : (c :: (word ++ rest)).dropWhile
      (fun d => d.isAlphanum || d == '+' || d == '-' || d == '.') =
      rest.dropWhile (fun d => d.isAlphanum || d == '+' || d == '-' || d == '.') :=
    List.dropWhile_append_of_pos hword
  rw [List.cons_append, scheme?, hdrop]
  cases rest with
  | nil => rfl
  | cons d rest =>
      obtain rfl : d = '/' := hrest d rfl
      rfl

theorem body_of (cs : List Char) :
    (Reference.of cs).body = cs.takeWhile fun c => !(c == '?' || c == '#') := by
  unfold Reference.of
  dsimp only
  split
  · split <;> rfl
  · rfl
  · rfl

/-- Up to its first mark, a text led by a word is no empty text and begins with no slash. -/
theorem body_of_led {cs : List Char} (h : Led cs) :
    ∃ c rest, (Reference.of cs).body = c :: rest ∧ c.isLower = true := by
  obtain ⟨c, word, rest, rfl, hlower, -⟩ := h
  have hc : c.isLower = true := hlower c List.mem_cons_self
  have hmark : (fun c => !(c == '?' || c == '#')) c = true := by
    simp [ne_of_lower hc (show '?'.isLower = false by decide),
      ne_of_lower hc (show '#'.isLower = false by decide)]
  exact ⟨c, _, (body_of _).trans (List.takeWhile_cons_of_pos hmark), hc⟩

theorem relative_of_path (base : Url) {r : Reference} {c : Char} {rest : List Char}
    (hbody : r.body = c :: rest) (hc : isAnySlash c = false) :
    let k := SchemeKind.of base.scheme
    relative base r = .ok { base with
      path := .segments (walk k base.pathSegments.dropLast r.body)
      query := r.queryText k
      fragment := r.fragmentText } := by
  unfold relative
  rw [hbody]
  dsimp only
  split
  · rename_i heq
    cases heq
  · rename_i heq
    rw [(List.cons.inj heq).1] at hc
    cases hc
  · rename_i heq
    obtain ⟨rfl, rfl⟩ := List.cons.inj heq
    simp [hc]

/-- A text without scheme that begins as a path has an address relative to every base that is a
hierarchy: the text up to its first mark extends the path, and scheme and authority stay. -/
theorem join_path (base : Url) {text : String} (hnone : scheme? (cleaned text) = none) {c : Char}
    {rest : List Char} (hbody : (Reference.of (cleaned text)).body = c :: rest)
    (hc : isAnySlash c = false) (hscheme : base.scheme ≠ "file") :
    let r := Reference.of (cleaned text)
    let k := SchemeKind.of base.scheme
    ((∃ path, base.path = .rootless path) ∧ base.join text = .error .relativeToRootless) ∨
      (∃ list, base.path = .segments list) ∧ base.join text = .ok { base with
        path := .segments (walk k base.pathSegments.dropLast r.body)
        query := r.queryText k
        fragment := r.fragmentText } := by
  rw [join, read]
  simp only [hnone]
  unfold withoutScheme
  split
  · rename_i fragment hcs
    rw [hcs, body_of] at hbody
    cases hbody
  · split
    · rename_i path hpath
      exact .inl ⟨⟨path, hpath⟩, rfl⟩
    · rename_i list hpath
      rw [if_neg hscheme]
      exact .inr ⟨⟨list, hpath⟩, relative_of_path base hbody hc⟩

/-- A text led by a word is such a text. -/
theorem join_led (base : Url) {text : String} (h : Led text.toList)
    (hscheme : base.scheme ≠ "file") :
    let r := Reference.of (cleaned text)
    let k := SchemeKind.of base.scheme
    ((∃ path, base.path = .rootless path) ∧ base.join text = .error .relativeToRootless) ∨
      (∃ list, base.path = .segments list) ∧ base.join text = .ok { base with
        path := .segments (walk k base.pathSegments.dropLast r.body)
        query := r.queryText k
        fragment := r.fragmentText } := by
  have hled : Led (cleaned text) := cleaned_of_led h
  obtain ⟨c, rest, hbody, hc⟩ := body_of_led hled
  exact join_path base (scheme?_of_led hled) hbody (isAnySlash_of_lower hc) hscheme

theorem join_of_led {base url : Url} {text : String} (h : Led text.toList)
    (hscheme : base.scheme ≠ "file") (hjoin : base.join text = .ok url) :
    let r := Reference.of (cleaned text)
    let k := SchemeKind.of base.scheme
    url = { base with
      path := .segments (walk k base.pathSegments.dropLast r.body)
      query := r.queryText k
      fragment := r.fragmentText } := by
  rcases join_led base h hscheme with ⟨-, herror⟩ | ⟨-, hok⟩
  · rw [herror] at hjoin
    cases hjoin
  · rw [hok] at hjoin
    exact (Except.ok.inj hjoin).symm

end HostAgent.Url
