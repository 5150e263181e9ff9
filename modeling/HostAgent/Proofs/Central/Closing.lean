import HostAgent.Central.Client
import HostAgent.Proofs.Net.Sites

/-!
# Closing an address with a slash

The address of the central server is closed before it is read: its text gets a
slash, if it does not end in one. What is meant is the path of the address, but
the path is not there yet. So it matters what cleaning leaves of the end of the
text, in which piece of the path the end is, and where that piece leads.

A path that is followed to its end has a last segment, and closing what is written
of the path completes this segment, if it is not empty. A slash at the end of the
text does the same, unless a slash of the other kind stands there already: then it
makes one more segment, which is empty. And controls in front of the slash are no
longer at the end, so they stay.

## Main results

* `directory_eq_closed_iff`: which paths are closed already.
* `directory_append_eq_closed_iff`: when a slash behind a path closes it.
* `exists_cleaned`: what cleaning leaves of a text, and of the text with a slash behind it.
-/

namespace HostAgent.CentralClient

open Url

variable {port : Nat}

/-! ## Closed texts -/

theorem closed_of_slash (text : String) : closed (text ++ "/") = text ++ "/" := by
  rw [closed, if_pos (by simp)]

theorem closed_of_open {text back : String} (hne : back ≠ "") (hback : '/' ∉ back.toList) :
    closed (text ++ back) = text ++ back ++ "/" := by
  have hlast : (text ++ back).toList.getLast? ≠ some '/' := by
    intro heq
    have hsome : (back.toList.getLast?).isSome = true := by simpa using hne
    rw [String.toList_append, List.getLast?_append, Option.or_of_isSome hsome] at heq
    exact hback (List.mem_of_mem_getLast? heq)
  rw [closed, if_neg hlast]

/-- Closing a path completes its last segment, if that is not empty. -/
theorem closed_pathText (front : List String) {last : String} (hlast : '/' ∉ last.toList) :
    closed (pathText (.segments (front ++ [last]))) =
      pathText (.segments (if last = "" then front else front ++ [last])) ++ "/" := by
  by_cases hempty : last = ""
  · rw [if_pos hempty, hempty, pathText_concat, String.append_empty, closed_of_slash]
  · rw [if_neg hempty, pathText_concat, closed_of_open hempty hlast]

/-- A path ends in a slash if its last segment is empty. -/
theorem getLast?_pathText_iff (front : List String) {last : String} (hlast : '/' ∉ last.toList) :
    (pathText (.segments (front ++ [last]))).toList.getLast? = some '/' ↔ last = "" := by
  rw [pathText_concat, String.toList_append, List.getLast?_append]
  by_cases hempty : last = ""
  · simp [hempty]
  · have hsome : (last.toList.getLast?).isSome = true := by simpa using hempty
    rw [Option.or_of_isSome hsome]
    exact ⟨fun heq => absurd (List.mem_of_mem_getLast? heq) hlast, fun heq => absurd heq hempty⟩

/-! ## Last pieces -/

/-- A text has no slash, or a last one. -/
theorem exists_last_slash (cs : List Char) : (∀ c ∈ cs, isAnySlash c = false) ∨
    ∃ front c last, cs = front ++ c :: last ∧ isAnySlash c = true ∧
      ∀ d ∈ last, isAnySlash d = false := by
  induction cs with
  | nil => exact .inl (by simp)
  | cons c cs ih =>
      rcases ih with hplain | ⟨front, d, last, rfl, hd, hlast⟩
      · by_cases hc : isAnySlash c = true
        · exact .inr ⟨[], c, cs, rfl, hc, hplain⟩
        · exact .inl (List.forall_mem_cons.2 ⟨Bool.eq_false_iff.2 hc, hplain⟩)
      · exact .inr ⟨c :: front, d, last, rfl, hd, hlast⟩

theorem pieces_of_last {last more : List Char} (hlast : ∀ c ∈ last, isAnySlash c = false)
    (hmore : ∀ c ∈ more, isAnySlash c = false) :
    pieces (.web port) (last ++ more) = [last ++ more] :=
  pieces_of_plain (List.forall_mem_append.2 ⟨hlast, hmore⟩)

/-- Without slashes in the end of a text, the text ends in a slash only if this end is empty. -/
theorem last_eq_nil_iff {last : List Char} (hlast : ∀ c ∈ last, isAnySlash c = false)
    {before : Option Char} (hbefore : ∀ c ∈ before, isAnySlash c = true) :
    last = [] ↔ ∀ c ∈ last.getLast?.or before, isAnySlash c = true := by
  cases hend : last.getLast? with
  | none => exact ⟨fun _ => by simpa using hbefore, fun _ => List.getLast?_eq_none_iff.1 hend⟩
  | some c =>
      have hc := hlast c (List.mem_of_mem_getLast? hend)
      constructor
      · rintro rfl
        cases hend
      · intro hslash
        rw [hslash c (by simp)] at hc
        cases hc

/-- Every text ends in a piece, empty if a slash ends the text, that grows with what is put
behind. -/
theorem exists_last_piece (port : Nat) (cs : List Char) : ∃ front last,
    (∀ more, (∀ c ∈ more, isAnySlash c = false) →
      pieces (.web port) (cs ++ more) = front ++ [last ++ more]) ∧
    (∀ c ∈ last, isAnySlash c = false) ∧
    (last = [] ↔ ∀ c ∈ cs.getLast?, isAnySlash c = true) := by
  rcases exists_last_slash cs with hplain | ⟨front, c, last, rfl, hc, hlast⟩
  · refine ⟨[], cs, fun more hmore => pieces_of_last hplain hmore, hplain, ?_⟩
    rw [last_eq_nil_iff hplain (show ∀ c ∈ none, isAnySlash c = true by simp), Option.or_none]
  · refine ⟨pieces (.web port) front, last, fun more hmore => ?_, hlast, ?_⟩
    · have hslash : (SchemeKind.web port).isSlash c = true := hc
      rw [List.append_assoc, List.cons_append, pieces_append_of_slash hslash,
        pieces_of_last hlast hmore]
    · rw [last_eq_nil_iff hlast (show ∀ d ∈ some c, isAnySlash d = true by simpa using hc),
        List.getLast?_append, List.getLast?_cons]
      cases last.getLast? <;> simp

/-! ## Closed paths -/

/-- The segments reached along pieces that more pieces follow. -/
def reach (port : Nat) (front : List (List Char)) : List String :=
  front.foldl (fun segments piece => step (.web port) segments piece false) []

theorem walkPieces_concat (segments : List String) (front : List (List Char)) (last : List Char) :
    walkPieces (.web port) segments (front ++ [last]) =
      step (.web port)
        (front.foldl (fun segments piece => step (.web port) segments piece false) segments)
        last true := by
  induction front generalizing segments with
  | nil => rfl
  | cons piece front ih =>
      obtain ⟨next, rest, hnext⟩ : ∃ next rest, front ++ [last] = next :: rest :=
        List.exists_cons_of_ne_nil (by simp)
      have hrest := ih (step (.web port) segments piece false)
      rw [hnext] at hrest
      rw [List.cons_append, hnext]
      exact hrest

/-- The last step along a path gives a last segment, and without it what closing completes. -/
theorem step_last (port : Nat) (segments : List String) {last : List Char}
    (hlast : ∀ c ∈ last, isAnySlash c = false) :
    ∃ front back, step (.web port) segments last true = front ++ [back] ∧ '/' ∉ back.toList ∧
      (if back = "" then front else front ++ [back]) =
        if last = [] then segments else step (.web port) segments last false := by
  by_cases hdots : IsDots last
  · refine ⟨step (.web port) segments last false, "", step_of_dots segments hdots, by simp, ?_⟩
    rw [if_pos rfl, if_neg hdots.ne_nil]
  · have hslash : '/' ∉ last := fun hmem => by
      have hno := hlast _ hmem
      cases hno
    refine ⟨segments, Percent.encode pathExtra last, step_of_plain (by simp) hdots true,
      slash_not_mem_encode hslash, ?_⟩
    by_cases hempty : last = []
    · rw [if_pos hempty, if_pos (by rw [hempty]; rfl)]
    · have hne : Percent.encode pathExtra last ≠ "" := by
        intro heq
        have hpos := Percent.length_encode_pos pathExtra hempty
        rw [heq] at hpos
        cases hpos
      rw [if_neg hempty, if_neg hne, step_of_plain (by simp) hdots]

/-- The segments of a path in front of its last piece, and the path with that piece. -/
theorem walk_append {cs : List Char} {front : List (List Char)} {last more : List Char}
    (hpieces : pieces (.web port) (cs ++ more) = front ++ [last ++ more]) :
    walk (.web port) [] (cs ++ more) = step (.web port) (reach port front) (last ++ more) true ∧
      walk (.web port) [] (cs ++ more ++ ['/']) =
        step (.web port) (reach port front) (last ++ more) false ++ [""] := by
  constructor
  · show walkPieces (.web port) [] (pieces (.web port) (cs ++ more)) = _
    rw [hpieces, walkPieces_concat]
    rfl
  · show walkPieces (.web port) [] (pieces (.web port) (cs ++ more ++ ['/'])) = _
    rw [pieces_append, hpieces, show pieces (.web port) [] = [[]] from rfl, walkPieces_concat,
      List.foldl_append, step_of_plain (by simp) (by decide)]
    rfl

/-- A path extends what it is written as, closed, if a slash ends it. -/
theorem directory_eq_closed_iff (port : Nat) (cs : List Char) :
    pathText (.segments (walk (.web port) [] cs).dropLast) ++ "/" =
        closed (pathText (.segments (walk (.web port) [] cs))) ↔
      (pathText (.segments (walk (.web port) [] cs))).toList.getLast? = some '/' := by
  obtain ⟨before, last, hpieces, hplain, -⟩ := exists_last_piece port cs
  have hwalk := (walk_append (hpieces [] (by simp))).1
  rw [List.append_nil, List.append_nil] at hwalk
  obtain ⟨front, back, hstep, hback, -⟩ :=
    step_last port (reach port before) hplain
  rw [hwalk, hstep, List.dropLast_concat, closed_pathText front hback,
    getLast?_pathText_iff front hback, String.append_left_inj]
  by_cases hempty : back = ""
  · simp [hempty]
  · rw [if_neg hempty]
    constructor
    · intro heq
      have hlength := congrArg String.length heq
      rw [length_pathText_concat] at hlength
      omega
    · exact fun heq => absurd heq hempty

/-- Along a path that is empty or ends in a slash, what is reached ends in one. -/
theorem walk_ends_in_slash (port : Nat) {cs : List Char}
    (h : ∀ c ∈ cs.getLast?, isAnySlash c = true) :
    (pathText (.segments (walk (.web port) [] cs))).toList.getLast? = some '/' := by
  obtain ⟨before, last, hpieces, -, hempty⟩ := exists_last_piece port cs
  have hwalk := (walk_append (hpieces [] (by simp))).1
  rw [List.append_nil, List.append_nil] at hwalk
  rw [hwalk, hempty.2 h, step_of_plain (by simp) (by decide)]
  exact (getLast?_pathText_iff _ (by decide)).2 rfl

/-- A slash behind the text of a path, and perhaps behind controls, extends the path as closing
does, if there are no controls and no slash ends the text already. -/
theorem directory_append_eq_closed_iff (port : Nat) (cs : List Char) {more : List Char}
    (hmore : ∀ c ∈ more, c.toNat ≤ 0x20) :
    pathText (.segments (walk (.web port) [] (cs ++ more ++ ['/'])).dropLast) ++ "/" =
        closed (pathText (.segments (walk (.web port) [] cs))) ↔
      more = [] ∧ ¬ ∀ c ∈ cs.getLast?, isAnySlash c = true := by
  obtain ⟨before, last, hpieces, hplain, hempty⟩ := exists_last_piece port cs
  have hwalk := (walk_append (hpieces [] (by simp))).1
  have hlonger := (walk_append (hpieces more fun c hc => isAnySlash_of_control (hmore c hc))).2
  rw [List.append_nil, List.append_nil] at hwalk
  obtain ⟨front, back, hstep, hback, hclosed⟩ :=
    step_last port (reach port before) hplain
  rw [hlonger, List.dropLast_concat, hwalk, hstep, closed_pathText front hback, hclosed, ← hempty,
    String.append_left_inj]
  generalize reach port before = segments
  constructor
  · intro heq
    have hlength := congrArg String.length heq
    have hle := length_step_le (k := .web port) segments (by simp) last false
    by_cases hnone : more = []
    · refine ⟨hnone, fun hnil => ?_⟩
      rw [hnone, hnil, if_pos rfl, List.append_nil, step_of_plain (by simp) (by decide),
        length_pathText_concat] at hlength
      omega
    · have hpos := Percent.length_encode_pos pathExtra hnone
      rw [step_of_plain (by simp) (not_isDots_of_control hnone hmore), length_pathText_concat,
        Percent.encode_append, String.length_append] at hlength
      split at hlength <;> omega
  · rintro ⟨rfl, hne⟩
    rw [List.append_nil, if_neg hne]

/-! ## Cleaned texts -/

theorem isBlank_of_isBreak {c : Char} (h : isBreak c = true) : Text.isBlank c = true := by
  simp only [isBreak, Bool.or_eq_true, beq_iff_eq] at h
  rcases h with (rfl | rfl) | rfl <;> rfl

theorem kept_of_large {c : Char} (h : 0x20 < c.toNat) : isBreak c = false := by
  have hne : ∀ d : Char, d.toNat ≤ 0x20 → c ≠ d := by
    rintro d hd rfl
    omega
  simp [isBreak, hne '\t' (by decide), hne '\n' (by decide), hne '\r' (by decide)]

/-- A text that does not end in a blank does not consist of breaks, if there is anything in it. -/
theorem filter_breaks_eq_nil_iff {cs : List Char} (h : ∀ c ∈ cs.getLast?, Text.isBlank c = false) :
    cs.filter (!isBreak ·) = [] ↔ cs = [] := by
  constructor
  · intro hfilter
    rcases List.eq_nil_or_concat cs with hnil | ⟨front, c, rfl⟩
    · exact hnil
    · have hblank := h c (by simp)
      have hbreak : isBreak c = false := by
        rw [← Bool.not_eq_true]
        intro hc
        rw [isBlank_of_isBreak hc] at hblank
        cases hblank
      have hmem : c ∈ (front.concat c).filter (!isBreak ·) := by simp [hbreak]
      rw [hfilter] at hmem
      cases hmem
  · rintro rfl
    rfl

/-- Of the end of a text nothing is trimmed if there is a slash behind it. -/
theorem cleaned_slash {text : String} (hfirst : ∀ c ∈ text.toList.head?, 0x20 < c.toNat) :
    cleaned (text ++ "/") = text.toList.filter (!isBreak ·) ++ ['/'] := by
  have htrim : Text.trimBoth (fun c => c.toNat ≤ 0x20) (text ++ "/").toList =
      text.toList ++ ['/'] := by
    refine Text.trimBoth_eq_iff.2
      ⟨[], [], by simp, by simp, fun c hc => decide_eq_false (Nat.not_le.2 ?_), by simp⟩
    cases hhead : text.toList.head? with
    | none =>
        rw [List.head?_append, hhead] at hc
        cases hc
        decide
    | some d =>
        rw [List.head?_append, hhead] at hc
        cases hc
        exact hfirst _ hhead
  rw [cleaned_eq, htrim, List.filter_append]
  rfl

/-- What cleaning leaves of a text, and of the text with a slash behind it. What is cut off the end
of the text is then inside, but for breaks. -/
theorem cleaned_append_slash {text : String} {front rest : List Char} (hne : front ≠ [])
    (hfront : ∀ c ∈ front, 0x20 < c.toNat) (htext : text.toList = front ++ rest)
    (hlast : ∀ c ∈ text.toList.getLast?, Text.isBlank c = false) :
    ∃ body controls, cleaned text = front ++ body ∧
      cleaned (text ++ "/") = front ++ (body ++ (controls ++ ['/'])) ∧
      (∀ c ∈ controls, c.toNat ≤ 0x20) ∧ (controls = [] ↔ EndsInText text.toList) ∧
      (controls = [] → (front ++ body).getLast? = text.toList.getLast?) ∧
      ∀ c, 0x20 < c.toNat → (c ∈ body ↔ c ∈ rest) := by
  obtain ⟨kept, back, rfl, htrim, hback, -⟩ :=
    trimBoth_behind rest hne fun c hc => decide_eq_false (Nat.not_le.2 (hfront c hc))
  have hstays : front.filter (!isBreak ·) = front :=
    List.filter_eq_self.2 fun c hc => by simp [kept_of_large (hfront c hc)]
  have hlow : ∀ c ∈ back, c.toNat ≤ 0x20 := fun c hc => by simpa using hback c hc
  have hhigh : ∀ c ∈ (front ++ kept).getLast?, 0x20 < c.toNat := by
    obtain ⟨-, -, -, -, -, hend⟩ := Text.trimBoth_eq_iff.1 htrim
    exact fun c hc => by simpa using hend c hc
  -- What is cut off ends in a control that is no blank, and so no break.
  have hnone : back.filter (!isBreak ·) = [] ↔ back = [] := by
    refine filter_breaks_eq_nil_iff fun c hc => hlast c ?_
    rw [htext, List.getLast?_append, List.getLast?_append, hc]
    rfl
  refine ⟨kept.filter (!isBreak ·), back.filter (!isBreak ·), ?_, ?_, ?_, ?_, ?_, ?_⟩
  · rw [cleaned_eq, htext, htrim, List.filter_append, hstays]
  · have hfirst : ∀ c ∈ text.toList.head?, 0x20 < c.toNat := by
      rw [htext, List.head?_append, Option.or_of_isSome (by simpa using hne)]
      exact fun c hc => hfront c (List.mem_of_mem_head? hc)
    rw [cleaned_slash hfirst, htext, List.filter_append, List.filter_append, hstays]
    simp only [List.append_assoc]
  · exact fun c hc => hlow c (List.mem_filter.1 hc).1
  · rw [hnone, htext, ← List.append_assoc]
    constructor
    · rintro rfl
      rw [List.append_nil]
      exact hhigh
    · exact eq_nil_of_ends hlow
  · rw [hnone]
    rintro rfl
    rw [htext, List.append_nil]
    rcases List.eq_nil_or_concat kept with rfl | ⟨before, c, rfl⟩
    · rfl
    · have hc := kept_of_large (hhigh c (by simp))
      simp [hc]
  · intro c hc
    have hmissing : c ∉ back := fun hmem => Nat.not_le.2 hc (hlow c hmem)
    simp [kept_of_large hc, hmissing]

/-- What cleaning leaves behind the scheme of a text, and of the text with a slash behind it. -/
structure Cleaned (scheme text : String) (body controls : List Char) : Prop where
  alone : cleaned text = scheme.toList ++ ':' :: body
  longer : cleaned (text ++ "/") = scheme.toList ++ ':' :: (body ++ (controls ++ ['/']))
  low : ∀ c ∈ controls, c.toNat ≤ 0x20
  none_iff : controls = [] ↔ EndsInText text.toList
  last : controls = [] → body ≠ [] → body.getLast? = text.toList.getLast?
  marks : (∃ c ∈ text.toList, isMark c = true) ↔ ∃ c ∈ body, isMark c = true

theorem exists_cleaned {scheme text : String} {rest : List Char}
    (hscheme : scheme = "http" ∨ scheme = "https")
    (htext : text.toList = scheme.toList ++ ':' :: rest)
    (hlast : ∀ c ∈ text.toList.getLast?, Text.isBlank c = false) :
    ∃ body controls, Cleaned scheme text body controls := by
  have hall :
      (scheme.toList ++ [':']).all (fun c => decide (0x20 < c.toNat) && !isMark c) = true := by
    rcases hscheme with rfl | rfl <;> rfl
  have hfront : ∀ c ∈ scheme.toList ++ [':'], 0x20 < c.toNat ∧ isMark c = false := fun c hc => by
    simpa using List.all_eq_true.1 hall c hc
  have hshift : ∀ cs : List Char, scheme.toList ++ ':' :: cs = (scheme.toList ++ [':']) ++ cs := by
    simp
  rw [hshift] at htext
  obtain ⟨body, controls, halone, hlonger, hlow, hnone, hend, hmem⟩ :=
    cleaned_append_slash (by simp) (fun c hc => (hfront c hc).1) htext hlast
  refine ⟨body, controls, halone.trans (hshift _).symm, hlonger.trans (hshift _).symm, hlow, hnone,
    fun hcontrols hne => ?_, ?_⟩
  · rw [← hend hcontrols, List.getLast?_append, Option.or_of_isSome (by simpa using hne)]
  · refine exists_congr fun c => and_congr_left fun hc => ?_
    have hlarge : 0x20 < c.toNat := by
      apply Nat.lt_of_not_le
      intro hle
      rw [isMark_of_control hle] at hc
      cases hc
    have hfirst : c ∉ scheme.toList ++ [':'] := fun hmem => by
      rw [(hfront c hmem).2] at hc
      cases hc
    rw [hmem c hlarge, htext, List.mem_append]
    exact ⟨fun h => h.resolve_left hfirst, .inr⟩

end HostAgent.CentralClient
