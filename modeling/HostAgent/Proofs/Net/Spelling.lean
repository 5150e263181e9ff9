import HostAgent.Proofs.Net.Walking

/-!
# Texts that an address spells out

A text behind a word and a slash is meant to be a part of the address below a
base: the address should have the path of the base, the word, and the text as it
is encoded. This is so exactly for texts that no stage of joining treats in a way
of its own: blanks at the end and line breaks anywhere are left out, a question
mark or a number sign ends the path, a backslash is a slash, and pieces of dots
lead elsewhere.

## Main results

* `cleaned_behind`: what is left of a text behind a word.
* `noMarks_iff`: when an address has neither query nor fragment.
* `of_parse`: an address of the web has an authority and is a hierarchy.
* `join_spells_iff`: which texts are spelled out.
* `Spells.render_inj`: addresses that spell out different texts are different.
-/

namespace HostAgent.Url

/-! ## Cleaning -/

/-- A line break or a tab, which does not count anywhere in an address. -/
def isBreak (c : Char) : Bool := c == '\t' || c == '\n' || c == '\r'

/-- Cleaning leaves the text as it is. -/
structure Clean (cs : List Char) : Prop where
  breaks : ∀ c ∈ cs, isBreak c = false
  last : ∀ c ∈ cs.getLast?, 0x20 < c.toNat

theorem cleaned_eq (text : String) :
    cleaned text =
      (Text.trimBoth (fun c => c.toNat ≤ 0x20) text.toList).filter (!isBreak ·) := by
  unfold cleaned
  refine congrArg (List.filter · _) (funext fun c => ?_)
  simp [isBreak, bne, Bool.and_assoc]

/-- No controls are at the end of a text that ends in something else. -/
theorem eq_nil_of_ends {cs controls : List Char} (hcontrols : ∀ c ∈ controls, c.toNat ≤ 0x20)
    (hends : ∀ c ∈ (cs ++ controls).getLast?, 0x20 < c.toNat) : controls = [] := by
  rcases List.eq_nil_or_concat controls with hnil | ⟨front, c, rfl⟩
  · exact hnil
  · have hlow := hcontrols c (by simp)
    have hhigh := hends c (by simp)
    omega

theorem kept_of_lower {c : Char} (h : c.isLower = true) : 0x20 < c.toNat ∧ isBreak c = false := by
  have hbounds := lower_bounds h
  have hne := fun d hd => ne_of_lower (d := d) h hd
  exact ⟨by omega, by simp [isBreak, hne '\t' (by decide), hne '\n' (by decide),
    hne '\r' (by decide)]⟩

/-- Cleaning leaves a text as it is that holds neither blanks nor controls. -/
theorem cleaned_of_kept {text : String}
    (h : ∀ c ∈ text.toList, 0x20 < c.toNat ∧ isBreak c = false) : cleaned text = text.toList := by
  have hstays : ∀ c ∈ text.toList, decide (c.toNat ≤ 0x20) = false := fun c hc =>
    decide_eq_false (by have := (h c hc).1; omega)
  have htrim : Text.trimBoth (fun c => decide (c.toNat ≤ 0x20)) text.toList = text.toList :=
    Text.trimBoth_eq_iff.2 ⟨[], [], by simp, by simp,
      fun c hc => hstays c (List.mem_of_mem_head? hc),
      fun c hc => hstays c (List.mem_of_mem_getLast? hc)⟩
  rw [cleaned_eq, htrim]
  exact List.filter_eq_self.2 fun c hc => by simp [(h c hc).2]

/-- Only the end of a text is trimmed behind characters that stay. -/
theorem trimBoth_behind {p : Char → Bool} {front : List Char} (rest : List Char) (hne : front ≠ [])
    (hfront : ∀ c ∈ front, p c = false) :
    ∃ kept back, rest = kept ++ back ∧ Text.trimBoth p (front ++ rest) = front ++ kept ∧
      (∀ c ∈ back, p c = true) ∧ ∀ c ∈ kept.getLast?, p c = false := by
  obtain ⟨start, back, hcut, hends, -, hlast⟩ :=
    Text.trimBoth_eq_iff.1 (rfl : Text.trimBoth p (front ++ rest) = _)
  have hno : ∀ c, c ∈ front → c ∈ start ++ back → False := by
    intro c hc hend
    have hblank := hends c hend
    rw [hfront c hc] at hblank
    cases hblank
  obtain rfl : start = [] := by
    cases start with
    | nil => rfl
    | cons d start =>
        obtain ⟨c, front, rfl⟩ := List.exists_cons_of_ne_nil hne
        obtain ⟨rfl, -⟩ := List.cons.inj hcut
        exact (hno c List.mem_cons_self (by simp)).elim
  rw [List.nil_append] at hcut
  rcases List.append_eq_append_iff.1 hcut with ⟨kept, hkept, hrest⟩ | ⟨more, hmore, hback⟩
  · refine ⟨kept, back, hrest, hkept, fun c hc => hends c (by simpa using hc), ?_⟩
    intro c hc
    refine hlast c ?_
    rw [hkept, List.getLast?_append, Option.mem_def.1 hc]
    rfl
  · obtain rfl : more = [] := by
      refine List.eq_nil_iff_forall_not_mem.2 fun c hc => ?_
      exact hno c (hmore ▸ List.mem_append_right _ hc) (by simp [hback, hc])
    refine ⟨[], back, hback.symm, ?_, fun c hc => hends c (by simpa using hc), by simp⟩
    simpa using hmore.symm

/-- Behind a word and a slash some of the text may be left out, but nothing if it is clean. -/
theorem cleaned_behind {text : String} {word rest : List Char}
    (hword : ∀ c ∈ word, c.isLower = true) (htext : text.toList = word ++ '/' :: rest) :
    ∃ kept, cleaned text = word ++ '/' :: kept ∧ kept.Sublist rest ∧
      (kept = rest ↔ Clean rest) := by
  have hfront : ∀ c ∈ word ++ ['/'], 0x20 < c.toNat ∧ isBreak c = false := by
    intro c hc
    rcases List.mem_append.1 hc with hc | hc
    · exact kept_of_lower (hword c hc)
    · obtain rfl := List.mem_singleton.1 hc
      decide
  obtain ⟨kept, back, rfl, htrim, hback, hlast⟩ :=
    trimBoth_behind rest (show word ++ ['/'] ≠ [] by simp) fun c hc =>
      decide_eq_false (p := c.toNat ≤ 0x20) (by have := (hfront c hc).1; omega)
  have hsplit : word ++ '/' :: (kept ++ back) = (word ++ ['/']) ++ (kept ++ back) := by simp
  have hsub : (kept.filter (!isBreak ·)).Sublist (kept ++ back) :=
    List.filter_sublist.trans (List.sublist_append_left kept back)
  refine ⟨kept.filter (!isBreak ·), ?_, hsub, ?_⟩
  · have hstays : (word ++ ['/']).filter (!isBreak ·) = word ++ ['/'] :=
      List.filter_eq_self.2 fun c hc => by simp [(hfront c hc).2]
    rw [cleaned_eq, htext, hsplit, htrim, List.filter_append, hstays]
    simp
  · constructor
    · intro h
      have hlength := congrArg List.length h
      have hfilter := List.length_filter_le (!isBreak ·) kept
      rw [List.length_append] at hlength
      obtain rfl : back = [] := List.eq_nil_of_length_eq_zero (by omega)
      rw [List.append_nil] at h ⊢
      refine ⟨fun c hc => ?_, fun c hc => ?_⟩
      · simpa using List.filter_eq_self.1 h c hc
      · simpa using hlast c hc
    · rintro ⟨hbreaks, hend⟩
      obtain rfl : back = [] := eq_nil_of_ends (fun c hc => by simpa using hback c hc) hend
      rw [List.append_nil]
      exact List.filter_eq_self.2 fun c hc => by simp [hbreaks c (by simp [hc])]

/-! ## Marks -/

theorem noMarks_iff (cs : List Char) :
    (Reference.of cs).query = none ∧ (Reference.of cs).fragment = none ↔
      ∀ c ∈ cs, c ≠ '?' ∧ c ≠ '#' := by
  have hall : cs.dropWhile (fun c => !(c == '?' || c == '#')) = [] ↔
      ∀ c ∈ cs, c ≠ '?' ∧ c ≠ '#' := by
    rw [Text.dropWhile_eq_iff]
    constructor
    · rintro ⟨front, hcs, hfront, -⟩ c hc
      rw [hcs, List.append_nil] at hc
      simpa using hfront c hc
    · intro h
      exact ⟨cs, by simp, fun c hc => by simpa using h c hc, by simp⟩
  rw [← hall]
  unfold Reference.of
  dsimp only
  split
  · rename_i rest hdrop
    rw [hdrop]
    split <;> simp
  · rename_i hdrop
    rw [hdrop]
    simp
  · rename_i hdrop
    rw [hdrop]
    simp

/-- A text without marks is all path. -/
theorem body_of_noMarks {cs : List Char} (h : ∀ c ∈ cs, c ≠ '?' ∧ c ≠ '#') :
    (Reference.of cs).body = cs := by
  rw [body_of]
  refine Text.takeWhile_eq_iff.2 ⟨[], by simp, fun c hc => ?_, by simp⟩
  simpa using h c hc

/-! ## Pieces -/

theorem pieces_append_of_slash {k : SchemeKind} {c : Char} (hc : k.isSlash c = true)
    (front back : List Char) : pieces k (front ++ c :: back) = pieces k front ++ pieces k back := by
  induction front with
  | nil =>
      obtain ⟨piece, rest, hpieces⟩ := List.exists_cons_of_ne_nil (pieces_ne_nil k back)
      simp [pieces, hpieces, hc]
  | cons d front ih =>
      obtain ⟨piece, rest, hpieces⟩ := List.exists_cons_of_ne_nil (pieces_ne_nil k front)
      simp only [List.cons_append, pieces, ih, hpieces]
      split <;> rfl

theorem pieces_append (k : SchemeKind) (front back : List Char) :
    pieces k (front ++ '/' :: back) = pieces k front ++ pieces k back :=
  pieces_append_of_slash (by simp [SchemeKind.isSlash]) front back

/-- A text without slashes is one piece. -/
theorem pieces_of_plain {k : SchemeKind} {cs : List Char} (h : ∀ c ∈ cs, k.isSlash c = false) :
    pieces k cs = [cs] := by
  induction cs with
  | nil => rfl
  | cons c cs ih =>
      rw [pieces, ih fun d hd => h d (List.mem_cons_of_mem _ hd)]
      simp [h c List.mem_cons_self]

/-! ## Plain characters -/

/-- A letter or a digit of ASCII, a hyphen or an underscore. -/
def isPlain (c : Char) : Bool := c.isAlphanum || c == '-' || c == '_'

theorem plain_of_lower {c : Char} (h : c.isLower = true) : isPlain c = true := by
  show (c.isUpper || c.isLower || c.isDigit || c == '-' || c == '_') = true
  simp [h]

theorem plain_bounds {c : Char} (h : isPlain c = true) :
    c = '-' ∨ (0x30 ≤ c.toNat ∧ c.toNat ≤ 0x39) ∨ (0x41 ≤ c.toNat ∧ c.toNat ≤ 0x5A) ∨
      c = '_' ∨ 0x61 ≤ c.toNat ∧ c.toNat ≤ 0x7A := by
  have hrange : (decide (c.val ≥ 65 ∧ c.val ≤ 90) ||
      (decide (c.val ≥ 97) && decide (c.val ≤ 122)) ||
      (decide (c.val ≥ 48) && decide (c.val ≤ 57)) || c == '-' || c == '_') = true := h
  simp only [Bool.or_eq_true, Bool.and_eq_true, decide_eq_true_eq, beq_iff_eq] at hrange
  rcases hrange with (((hc | hc) | hc) | hc) | hc
  · exact .inr (.inr (.inl hc))
  · exact .inr (.inr (.inr (.inr hc)))
  · exact .inr (.inl hc)
  · exact .inl hc
  · exact .inr (.inr (.inr (.inl hc)))

/-- Plain characters are neither blanks nor controls of ASCII. -/
theorem toNat_of_plain {c : Char} (h : isPlain c = true) : 0x20 < c.toNat ∧ c.toNat < 0x7F := by
  rcases plain_bounds h with rfl | hc | hc | rfl | hc
  · decide
  · omega
  · omega
  · decide
  · omega

theorem ne_of_plain {c d : Char} (h : isPlain c = true) (hd : isPlain d = false) : c ≠ d := by
  rintro rfl
  rw [h] at hd
  cases hd

theorem kept_of_plain {c : Char} (h : isPlain c = true) : 0x20 < c.toNat ∧ isBreak c = false := by
  have hne := fun d hd => ne_of_plain (d := d) h hd
  exact ⟨(toNat_of_plain h).1, by simp [isBreak, hne '\t' (by decide), hne '\n' (by decide),
    hne '\r' (by decide)]⟩

theorem isAnySlash_of_plain {c : Char} (h : isPlain c = true) : isAnySlash c = false := by
  simp [isAnySlash, ne_of_plain h (show isPlain '/' = false by decide),
    ne_of_plain h (show isPlain '\\' = false by decide)]

theorem not_isDots_of_plain {c : Char} {cs : List Char} (hc : isPlain c = true) :
    ¬ IsDots (c :: cs) := by
  have hdots : dots (c :: cs) = c :: dots cs := by
    rw [dots]
    all_goals
      rintro _ rfl
      exact absurd hc (by decide)
  have hne : c ≠ '.' := ne_of_plain hc (by decide)
  rw [IsDots, hdots]
  rintro (h | h) <;> exact hne (List.cons.inj h).1

theorem encodeChar_of_plain {c : Char} (hc : isPlain c = true) :
    Percent.encodeChar pathExtra c = [c] := by
  have hbounds := toNat_of_plain hc
  have hcontrol : Percent.isControlOrWide c = false := by
    simp [Percent.isControlOrWide]
    omega
  have hextra : c ∉ pathExtra := by
    intro hmem
    have hall : pathExtra.all (!isPlain ·) = true := by decide
    have hno := List.all_eq_true.1 hall c hmem
    rw [hc] at hno
    cases hno
  simp [Percent.encodeChar, Percent.needsEncoding, hcontrol, hextra]

/-- Plain characters and slashes need no encoding. -/
theorem encode_of_plain {text : String} (h : ∀ c ∈ text.toList, isPlain c = true ∨ c = '/') :
    Percent.encode pathExtra text.toList = text := by
  have hsame : ∀ cs : List Char, (∀ c ∈ cs, isPlain c = true ∨ c = '/') →
      cs.flatMap (Percent.encodeChar pathExtra) = cs := by
    intro cs hcs
    induction cs with
    | nil => rfl
    | cons c cs ih =>
        have hchar : Percent.encodeChar pathExtra c = [c] := by
          rcases hcs c List.mem_cons_self with hc | rfl
          · exact encodeChar_of_plain hc
          · decide
        rw [List.flatMap_cons, hchar, ih fun d hd => hcs d (List.mem_cons_of_mem _ hd)]
        rfl
  rw [Percent.encode, hsame text.toList h, String.ofList_toList]

/-! ## Words -/

/-- A word of small letters. -/
structure IsWord (word : String) : Prop where
  nonempty : word ≠ ""
  lower : ∀ c ∈ word.toList, c.isLower = true

instance (word : String) : Decidable (IsWord word) :=
  decidable_of_iff (word ≠ "" ∧ word.toList.all Char.isLower = true)
    ⟨fun h => ⟨h.1, List.all_eq_true.1 h.2⟩, fun h => ⟨h.nonempty, List.all_eq_true.2 h.lower⟩⟩

namespace IsWord

variable {word : String} (h : IsWord word)
include h

theorem exists_cons : ∃ c front, word.toList = c :: front ∧ c.isLower = true := by
  obtain ⟨c, front, hcons⟩ :=
    List.exists_cons_of_ne_nil fun hnil => h.nonempty (String.toList_inj.1 hnil)
  exact ⟨c, front, hcons, h.lower c (hcons ▸ List.mem_cons_self)⟩

theorem not_isDots : ¬ IsDots word.toList := by
  obtain ⟨c, front, hcons, hc⟩ := h.exists_cons
  rw [hcons]
  exact not_isDots_of_plain (plain_of_lower hc)

theorem marks : ∀ c ∈ word.toList, c ≠ '?' ∧ c ≠ '#' := fun c hc =>
  ⟨ne_of_lower (h.lower c hc) (by decide), ne_of_lower (h.lower c hc) (by decide)⟩

/-- A word is one piece. -/
theorem pieces_eq (port : Nat) : pieces (.web port) word.toList = [word.toList] := by
  refine pieces_of_plain fun c hc => ?_
  have hslash : c ≠ '/' := ne_of_lower (h.lower c hc) (by decide)
  have hback : c ≠ '\\' := ne_of_lower (h.lower c hc) (by decide)
  simp [SchemeKind.isSlash, hslash, hback]

/-- A word needs no encoding. -/
theorem encode_eq : Percent.encode pathExtra word.toList = word :=
  encode_of_plain fun c hc => .inl (plain_of_lower (h.lower c hc))

theorem led (rest : List Char) (hrest : ∀ c ∈ rest.head?, c = '/') : Led (word.toList ++ rest) := by
  obtain ⟨c, front, hcons, -⟩ := h.exists_cons
  exact ⟨c, front, rest, by rw [hcons], hcons ▸ h.lower, hrest⟩

theorem led_self : Led word.toList := by
  have hled := h.led [] (by simp)
  rwa [List.append_nil] at hled

omit h in
theorem toList_behind (rest : String) :
    (word ++ "/" ++ rest).toList = word.toList ++ '/' :: rest.toList := by
  simp

theorem led_behind (rest : String) : Led (word ++ "/" ++ rest).toList :=
  toList_behind rest ▸ h.led _ (by simp)

/-- Cleaning leaves a word as it is. -/
theorem cleaned_eq : cleaned word = word.toList :=
  cleaned_of_kept fun c hc => kept_of_lower (h.lower c hc)

/-- A path that is a word. -/
theorem walk_eq (port : Nat) (segments : List String) :
    walk (.web port) segments word.toList = segments ++ [word] := by
  have hstep : step (.web port) segments word.toList true = segments ++ [word] := by
    rw [step_of_plain (by simp) h.not_isDots, h.encode_eq]
  rw [walk, h.pieces_eq]
  exact hstep

/-- A path of a word, a slash and a text is the word, and then the text. -/
theorem walk_behind (port : Nat) (segments : List String) (rest : List Char) :
    walk (.web port) segments (word.toList ++ '/' :: rest) =
      walkPieces (.web port) (segments ++ [word]) (pieces (.web port) rest) := by
  obtain ⟨piece, more, hpieces⟩ := List.exists_cons_of_ne_nil (pieces_ne_nil (.web port) rest)
  have hwalk : walk (.web port) segments (word.toList ++ '/' :: rest) =
      walkPieces (.web port) segments (word.toList :: pieces (.web port) rest) := by
    rw [walk, pieces_append, h.pieces_eq]
    rfl
  rw [hwalk, hpieces]
  show walkPieces _ (step _ segments word.toList false) (piece :: more) = _
  rw [step_of_plain (by simp) h.not_isDots, h.encode_eq]

end IsWord

/-! ## Bases -/

/-- A base of the web that is a hierarchy. -/
structure WebBase (base : Url) (port : Nat) : Prop where
  scheme : SchemeKind.of base.scheme = .web port
  path : ∃ list, base.path = .segments list

theorem ofFile_scheme {base : Option Url} {r : Reference} {u : Url}
    (hbase : ∀ b ∈ base, b.scheme = "file") (h : ofFile base r = .ok u) : u.scheme = "file" := by
  unfold ofFile at h
  dsimp only [pure, Except.pure] at h
  split at h
  · cases base with
    | none =>
        cases h
        rfl
    | some b =>
        cases h
        exact hbase b rfl
  · split at h
    · split at h
      · split at h
        · cases h
          rfl
        · cases hhost :
              webHost (List.takeWhile (fun x => !isAnySlash x) (List.drop 1 ‹List Char›)) with
          | error e =>
              rw [hhost] at h
              cases h
          | ok host =>
              rw [hhost] at h
              cases h
              rfl
      · split at h
        · cases h
          rfl
        · split at h <;>
          · cases h
            rfl
    · split at h <;>
      · cases h
        rfl

/-- What is relative to a file is a file. -/
theorem join_file_scheme {base u : Url} {text : String} (h : Led text.toList)
    (hfile : base.scheme = "file") (hjoin : base.join text = .ok u) : u.scheme = "file" := by
  rw [join, read] at hjoin
  simp only [scheme?_of_led (cleaned_of_led h)] at hjoin
  unfold withoutScheme at hjoin
  split at hjoin
  · cases hjoin
    exact hfile
  · split at hjoin
    · cases hjoin
    · rw [if_pos hfile] at hjoin
      refine ofFile_scheme ?_ hjoin
      rintro b ⟨⟩
      exact hfile

theorem withAuthority_ok {scheme : String} {body : List Char} {r : Reference} {u : Url}
    (h : withAuthority scheme body r = .ok u) :
    u.scheme = scheme ∧ u.authority ≠ none ∧ ∃ list, u.path = .segments list := by
  unfold withAuthority at h
  dsimp only at h
  cases hread :
      Authority.read (SchemeKind.of scheme) body (r.query.isSome || r.fragment.isSome) with
  | error e =>
      rw [hread] at h
      cases h
  | ok result =>
      obtain ⟨a, rest⟩ := result
      rw [hread] at h
      cases h
      exact ⟨rfl, by simp, _, rfl⟩

/-- An address of the web that was read on its own has an authority and is a hierarchy. -/
theorem of_parse {text : String} {u : Url} {port : Nat} (h : parse text = .ok u)
    (hweb : SchemeKind.of u.scheme = .web port) : u.authority ≠ none ∧ u.WebBase port := by
  rw [parse, read] at h
  split at h
  · rename_i scheme rest hscheme
    unfold afterScheme at h
    dsimp only at h
    split at h
    · rw [ofFile_scheme (by simp) h] at hweb
      cases hweb
    · obtain ⟨-, hauthority, hpath⟩ := withAuthority_ok h
      exact ⟨hauthority, hweb, hpath⟩
    · rename_i hother
      have hsame : u.scheme = scheme := by
        split at h
        · exact (withAuthority_ok h).1
        · cases h
          rfl
        · cases h
          rfl
      rw [hsame, hother] at hweb
      cases hweb
  · cases h

theorem WebBase.not_file {base : Url} {port : Nat} (hbase : base.WebBase port) :
    base.scheme ≠ "file" := by
  intro heq
  have hweb := hbase.scheme
  rw [heq] at hweb
  cases hweb

/-- A text without scheme that begins as a path has an address below a base of the web. -/
theorem WebBase.join_path {base : Url} {port : Nat} (hbase : base.WebBase port) {text : String}
    (hnone : scheme? (cleaned text) = none) {c : Char} {rest : List Char}
    (hbody : (Reference.of (cleaned text)).body = c :: rest) (hc : isAnySlash c = false) :
    let r := Reference.of (cleaned text)
    base.join text = .ok { base with
      path := .segments (walk (.web port) base.pathSegments.dropLast r.body)
      query := r.queryText (.web port)
      fragment := r.fragmentText } := by
  have hjoin := Url.join_path base hnone hbody hc hbase.not_file
  rw [hbase.scheme] at hjoin
  rcases hjoin with ⟨⟨path, hrootless⟩, -⟩ | ⟨-, hok⟩
  · obtain ⟨list, hlist⟩ := hbase.path
    rw [hlist] at hrootless
    cases hrootless
  · exact hok

/-- A text led by a word is such a text. -/
theorem WebBase.join_led {base : Url} {port : Nat} (hbase : base.WebBase port) {text : String}
    (h : Led text.toList) :
    let r := Reference.of (cleaned text)
    base.join text = .ok { base with
      path := .segments (walk (.web port) base.pathSegments.dropLast r.body)
      query := r.queryText (.web port)
      fragment := r.fragmentText } := by
  have hled : Led (cleaned text) := cleaned_of_led h
  obtain ⟨c, rest, hbody, hc⟩ := body_of_led hled
  exact hbase.join_path (scheme?_of_led hled) hbody (isAnySlash_of_lower hc)

/-! ## Addresses -/

/-- The text is a part of an address as it is: no character of it is a mark or a line break, and no
piece of it between slashes is one of dots. -/
structure Own (k : SchemeKind) (cs : List Char) : Prop where
  marks : ∀ c ∈ cs, c ≠ '\\' ∧ c ≠ '?' ∧ c ≠ '#' ∧ isBreak c = false
  dots : ∀ piece ∈ pieces k cs, ¬ IsDots piece

/-- Said with truth values, so that it is decided the same way whichever instances are known. -/
theorem own_iff_all {k : SchemeKind} {cs : List Char} : Own k cs ↔
    cs.all (fun c => !(c == '\\' || c == '?' || c == '#' || isBreak c)) = true ∧
      (pieces k cs).all (fun piece => !decide (IsDots piece)) = true := by
  simp only [List.all_eq_true, Bool.not_eq_true', Bool.or_eq_false_iff, beq_eq_false_iff_ne,
    decide_eq_false_iff_not, and_assoc]
  exact ⟨fun h => ⟨h.marks, h.dots⟩, fun h => ⟨h.1, h.2⟩⟩

instance (k : SchemeKind) (cs : List Char) : Decidable (Own k cs) :=
  decidable_of_iff _ own_iff_all.symm

/-- The text does not end in a blank or a control. -/
def EndsInText (cs : List Char) : Prop := ∀ c ∈ cs.getLast?, 0x20 < c.toNat

/-- Said with truth values, so that it is decided the same way whichever instances are known. -/
theorem endsInText_iff {cs : List Char} :
    EndsInText cs ↔ cs.getLast?.all (fun c => decide (0x20 < c.toNat)) = true := by
  simp only [EndsInText, Option.all_eq_true, Option.mem_def, decide_eq_true_eq]

instance (cs : List Char) : Decidable (EndsInText cs) := decidable_of_iff _ endsInText_iff.symm

/-- The address has this text below the directory of a base, and no query and no fragment. -/
structure Spells (url base : Url) (tail : String) : Prop where
  scheme : url.scheme = base.scheme
  authority : url.authority = base.authority
  path : pathText url.path = pathText (.segments base.pathSegments.dropLast) ++ tail
  query : url.query = none
  fragment : url.fragment = none

theorem slashed_web_iff {port : Nat} {c : Char} : slashed (.web port) c = c ↔ c ≠ '\\' := by
  constructor
  · rintro h rfl
    have hslash : slashed (.web port) '\\' = '/' := rfl
    rw [hslash] at h
    cases h
  · intro hne
    rcases slashed_cases (.web port) c with heq | ⟨rfl, -⟩
    · exact heq
    · exact absurd rfl hne

theorem own_iff {port : Nat} (cs : List Char) :
    (∀ c ∈ cs, c ≠ '?' ∧ c ≠ '#') ∧ Clean cs ∧ Literal (.web port) cs ↔
      Own (.web port) cs ∧ EndsInText cs := by
  constructor
  · rintro ⟨hmarks, hclean, hliteral⟩
    refine ⟨⟨fun c hc => ?_, hliteral.pieces⟩, hclean.last⟩
    exact ⟨slashed_web_iff.1 (hliteral.slashes c hc), (hmarks c hc).1, (hmarks c hc).2,
      hclean.breaks c hc⟩
  · rintro ⟨hown, hlast⟩
    refine ⟨fun c hc => ?_, ⟨fun c hc => (hown.marks c hc).2.2.2, hlast⟩, ?_, hown.dots⟩
    · exact ⟨(hown.marks c hc).2.1, (hown.marks c hc).2.2.1⟩
    · exact fun c hc => slashed_web_iff.2 (hown.marks c hc).1

/-- A word is a part of an address. -/
theorem IsWord.own {word : String} (h : IsWord word) (port : Nat) :
    Own (.web port) word.toList ∧ EndsInText word.toList := by
  refine ⟨⟨fun c hc => ?_, ?_⟩, fun c hc => ?_⟩
  · have hback : c ≠ '\\' := ne_of_lower (h.lower c hc) (by decide)
    exact ⟨hback, (h.marks c hc).1, (h.marks c hc).2, (kept_of_lower (h.lower c hc)).2⟩
  · rw [h.pieces_eq, List.forall_mem_singleton]
    exact h.not_isDots
  · exact (kept_of_lower (h.lower c (List.mem_of_mem_getLast? hc))).1

/-- A word and a slash behind a text leave open only whether the text is a part of an address. -/
theorem own_before_word_iff {port : Nat} {word : String} (h : IsWord word) (cs : List Char) :
    Own (.web port) (cs ++ '/' :: word.toList) ∧ EndsInText (cs ++ '/' :: word.toList) ↔
      Own (.web port) cs := by
  obtain ⟨⟨hmarks, hdots⟩, hends⟩ := h.own port
  have hlast : EndsInText (cs ++ '/' :: word.toList) := by
    obtain ⟨d, front, hcons, -⟩ := h.exists_cons
    intro c hc
    refine hends c ?_
    have hsome : (word.toList.getLast?).isSome = true := by
      rw [hcons, List.getLast?_isSome]
      exact List.cons_ne_nil d front
    rwa [List.getLast?_append, hcons, List.getLast?_cons_cons, ← hcons,
      Option.or_of_isSome hsome] at hc
  constructor
  · rintro ⟨⟨hall, hpieces⟩, -⟩
    refine ⟨fun c hc => hall c (List.mem_append_left _ hc), fun piece hpiece => ?_⟩
    exact hpieces piece (by rw [pieces_append]; exact List.mem_append_left _ hpiece)
  · rintro ⟨hall, hpieces⟩
    refine ⟨⟨?_, ?_⟩, hlast⟩
    · simp only [List.forall_mem_append, List.forall_mem_cons]
      exact ⟨hall, by decide, hmarks⟩
    · rw [pieces_append, List.forall_mem_append]
      exact ⟨hpieces, hdots⟩

/-- A text behind a word always has an address below a base, and it is spelled out exactly if it is
a part of an address as it is and does not end in a blank. -/
theorem join_spells_iff {base : Url} {port : Nat} (hbase : base.WebBase port) {word : String}
    (hword : IsWord word) (rest : String) :
    ∃ url, base.join (word ++ "/" ++ rest) = .ok url ∧ url.scheme = base.scheme ∧
      url.authority = base.authority ∧
        (url.Spells base ("/" ++ word ++ "/" ++ Percent.encode pathExtra rest.toList) ↔
          Own (.web port) rest.toList ∧ EndsInText rest.toList) := by
  obtain ⟨kept, hkept, hsub, hclean⟩ := cleaned_behind hword.lower (IsWord.toList_behind rest)
  refine ⟨_, hbase.join_led (hword.led_behind rest), rfl, rfl, ?_⟩
  rw [hkept]
  have hmarks : (∀ d ∈ word.toList ++ '/' :: kept, d ≠ '?' ∧ d ≠ '#') ↔
      ∀ d ∈ kept, d ≠ '?' ∧ d ≠ '#' := by
    simp only [List.forall_mem_append, List.forall_mem_cons]
    exact ⟨fun h => h.2.2, fun h => ⟨hword.marks, by decide, h⟩⟩
  have hspelled := pathText_walkPieces_iff (k := .web port)
    (base.pathSegments.dropLast ++ [word]) (by simp) hsub
  have htail : pathText (.segments base.pathSegments.dropLast) ++ "/" ++ word ++ "/" ++
      Percent.encode pathExtra rest.toList = pathText (.segments base.pathSegments.dropLast) ++
        ("/" ++ word ++ "/" ++ Percent.encode pathExtra rest.toList) := by
    simp only [String.append_assoc]
  rw [← hword.walk_behind, pathText_concat, htail] at hspelled
  rw [← own_iff]
  constructor
  · rintro ⟨-, -, hp, hquery, hfragment⟩
    have hall := (noMarks_iff _).1
      ⟨Option.map_eq_none_iff.1 hquery, Option.map_eq_none_iff.1 hfragment⟩
    have hnone := hmarks.1 hall
    obtain ⟨heq, hliteral⟩ := hspelled.1 (body_of_noMarks hall ▸ hp)
    exact ⟨heq ▸ hnone, hclean.1 heq, hliteral⟩
  · rintro ⟨hnone, hrest, hliteral⟩
    obtain rfl := hclean.2 hrest
    have hall := hmarks.2 hnone
    obtain ⟨hquery, hfragment⟩ := (noMarks_iff _).2 hall
    refine ⟨rfl, rfl, ?_, Option.map_eq_none_iff.2 hquery, Option.map_eq_none_iff.2 hfragment⟩
    rw [body_of_noMarks hall]
    exact hspelled.2 ⟨rfl, hliteral⟩

/-- A word alone is spelled out. -/
theorem join_word {base : Url} {port : Nat} (hbase : base.WebBase port) {word : String}
    (hword : IsWord word) : ∃ url, base.join word = .ok url ∧ url.Spells base ("/" ++ word) := by
  obtain ⟨hquery, hfragment⟩ := (noMarks_iff _).2 hword.marks
  refine ⟨_, hbase.join_led hword.led_self, rfl, rfl, ?_, ?_, ?_⟩
  · rw [hword.cleaned_eq, body_of_noMarks hword.marks, hword.walk_eq, pathText_concat,
      String.append_assoc]
  · rw [hword.cleaned_eq]
    exact Option.map_eq_none_iff.2 hquery
  · rw [hword.cleaned_eq]
    exact Option.map_eq_none_iff.2 hfragment

/-! ## Addresses as texts -/

/-- The directory of an address as a text. -/
def directory (u : Url) : String :=
  u.scheme ++ ":" ++ ((u.authority.map Authority.text).getD "") ++
    pathText (.segments u.pathSegments.dropLast)

theorem Spells.render_eq {url base : Url} {tail : String} (h : url.Spells base tail)
    (hauthority : base.authority ≠ none) : url.render = base.directory ++ tail := by
  obtain ⟨hscheme, hsame, hpath, hquery, hfragment⟩ := h
  obtain ⟨a, ha⟩ := Option.ne_none_iff_exists'.1 hauthority
  have hdot : url.needsDot = false := by
    unfold needsDot
    rw [hsame, ha]
  rw [render, renderBare, hquery, hfragment, hdot, hpath, hscheme, hsame, directory]
  simp [String.append_assoc]

/-- Addresses that spell out different texts are different. -/
theorem Spells.render_inj {u v base : Url} {tail tail' : String} (hu : u.Spells base tail)
    (hv : v.Spells base tail') (hauthority : base.authority ≠ none) :
    u.render = v.render ↔ tail = tail' := by
  rw [hu.render_eq hauthority, hv.render_eq hauthority, String.append_right_inj]

end HostAgent.Url
