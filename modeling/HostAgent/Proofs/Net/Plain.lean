import HostAgent.Proofs.Net.Spelling

/-!
# Plain paths

Letters, digits, hyphens and underscores stand for themselves everywhere in an
address: they are neither left out nor encoded, they separate nothing, and no
piece of them is one of dots. A path of such pieces, with slashes between them, is
therefore spelled out below every base. Slashes in front of the path would make
it begin at the root of the server, so they have to go first.

## Main results

* `PlainPath.dropLeading`: what is left of a plain path without the slashes in front.
* `pieces_intercalate`: its pieces are the ones it was made of.
* `join_plain`: a plain path is spelled out below every base of the web.
-/

namespace HostAgent.Url

/-- A piece of a plain path. -/
structure IsPlainPiece (piece : List Char) : Prop where
  nonempty : piece ≠ []
  plain : ∀ c ∈ piece, isPlain c = true

/-- Said with truth values, so that it is decided the same way whichever instances are known. -/
theorem isPlainPiece_iff {piece : List Char} :
    IsPlainPiece piece ↔ piece.isEmpty = false ∧ piece.all isPlain = true := by
  rw [List.isEmpty_eq_false_iff, List.all_eq_true]
  exact ⟨fun h => ⟨h.nonempty, h.plain⟩, fun h => ⟨h.1, h.2⟩⟩

instance (piece : List Char) : Decidable (IsPlainPiece piece) :=
  decidable_of_iff _ isPlainPiece_iff.symm

/-- Plain pieces with slashes between them, and perhaps more slashes in front. -/
def PlainPath (path : String) : Prop :=
  ∃ slashes parts, parts ≠ [] ∧ (∀ part ∈ parts, IsPlainPiece part) ∧
    path.toList = List.replicate slashes '/' ++ ['/'].intercalate parts

/-! ## Pieces -/

theorem IsPlainPiece.not_isDots {piece : List Char} (h : IsPlainPiece piece) : ¬ IsDots piece := by
  obtain ⟨c, rest, rfl⟩ := List.exists_cons_of_ne_nil h.nonempty
  exact not_isDots_of_plain (h.plain c List.mem_cons_self)

/-- The pieces of a plain path are the ones it was made of. -/
theorem pieces_intercalate {port : Nat} {parts : List (List Char)} (hne : parts ≠ [])
    (hparts : ∀ part ∈ parts, IsPlainPiece part) :
    pieces (.web port) (['/'].intercalate parts) = parts := by
  have hpiece : ∀ part, IsPlainPiece part → pieces (.web port) part = [part] := fun part hpart =>
    pieces_of_plain fun c hc => isAnySlash_of_plain (hpart.plain c hc)
  induction parts with
  | nil => exact absurd rfl hne
  | cons part parts ih =>
      have hpart := hpiece part (hparts part List.mem_cons_self)
      cases parts with
      | nil => rw [List.intercalate_singleton, hpart]
      | cons next parts =>
          rw [List.intercalate_cons_cons, List.append_assoc, List.singleton_append, pieces_append,
            hpart, ih (by simp) fun p hp => hparts p (List.mem_cons_of_mem _ hp)]
          rfl

theorem mem_intercalate {parts : List (List Char)} (hparts : ∀ part ∈ parts, IsPlainPiece part)
    {c : Char} (hc : c ∈ ['/'].intercalate parts) : isPlain c = true ∨ c = '/' := by
  induction parts with
  | nil => cases hc
  | cons part parts ih =>
      have hpart := hparts part List.mem_cons_self
      cases parts with
      | nil =>
          rw [List.intercalate_singleton] at hc
          exact .inl (hpart.plain c hc)
      | cons next parts =>
          rw [List.intercalate_cons_cons, List.mem_append, List.mem_append] at hc
          rcases hc with (hin | hslash) | hlater
          · exact .inl (hpart.plain c hin)
          · exact .inr (List.mem_singleton.1 hslash)
          · exact ih (fun p hp => hparts p (List.mem_cons_of_mem _ hp)) hlater

/-- The path begins with a character of its first piece. -/
theorem intercalate_eq_cons {parts : List (List Char)} (hne : parts ≠ [])
    (hparts : ∀ part ∈ parts, IsPlainPiece part) :
    ∃ c rest, ['/'].intercalate parts = c :: rest ∧ isPlain c = true := by
  obtain ⟨part, more, rfl⟩ := List.exists_cons_of_ne_nil hne
  obtain ⟨hnonempty, hplain⟩ := hparts part List.mem_cons_self
  obtain ⟨c, rest, rfl⟩ := List.exists_cons_of_ne_nil hnonempty
  exact ⟨c, _, List.intercalate_cons_cons_left, hplain c List.mem_cons_self⟩

/-! ## Paths -/

/-- Without the slashes in front, the pieces and the slashes between them are left. -/
theorem PlainPath.dropLeading {path : String} (h : PlainPath path) :
    ∃ parts, parts ≠ [] ∧ (∀ part ∈ parts, IsPlainPiece part) ∧
      (Text.dropLeading '/' path).toList = ['/'].intercalate parts := by
  obtain ⟨slashes, parts, hne, hparts, hpath⟩ := h
  refine ⟨parts, hne, hparts, ?_⟩
  obtain ⟨c, rest, hcons, hc⟩ := intercalate_eq_cons hne hparts
  rw [Text.dropLeading, String.toList_ofList, hpath]
  refine Text.dropWhile_eq_iff.2 ⟨_, rfl, fun d hd => ?_, fun d hd => ?_⟩
  · simp [(List.mem_replicate.1 hd).2]
  · obtain rfl : c = d := by simpa [hcons] using hd
    simpa using ne_of_plain hc (show isPlain '/' = false by decide)

/-- No colon, no scheme. -/
theorem scheme?_of_noColon {cs : List Char} (h : ':' ∉ cs) : scheme? cs = none := by
  unfold scheme?
  split
  · rfl
  · dsimp only
    split
    · rename_i hdrop
      have hmem := (List.dropWhile_sublist _).subset (hdrop ▸ List.mem_cons_self)
      exact absurd hmem h
    · rfl

/-- A plain path is spelled out below every base of the web. -/
theorem join_plain {base : Url} {port : Nat} (hbase : base.WebBase port) {path : String}
    (hpath : PlainPath path) :
    ∃ url, base.join (Text.dropLeading '/' path) = .ok url ∧
      url.Spells base ("/" ++ Text.dropLeading '/' path) := by
  obtain ⟨parts, hne, hparts, htext⟩ := hpath.dropLeading
  generalize Text.dropLeading '/' path = text at htext ⊢
  have hchars : ∀ c ∈ text.toList, isPlain c = true ∨ c = '/' := fun c hc =>
    mem_intercalate hparts (htext ▸ hc)
  have hclean : cleaned text = text.toList := cleaned_of_kept fun c hc => by
    rcases hchars c hc with hplain | rfl
    · exact kept_of_plain hplain
    · decide
  have hno : ∀ d, isPlain d = false → d ≠ '/' → ∀ c ∈ text.toList, c ≠ d := by
    rintro d hd hslash c hc rfl
    rcases hchars c hc with hplain | heq
    · exact ne_of_plain hplain hd rfl
    · exact hslash heq
  have hmarks : ∀ c ∈ text.toList, c ≠ '?' ∧ c ≠ '#' := fun c hc =>
    ⟨hno '?' (by decide) (by decide) c hc, hno '#' (by decide) (by decide) c hc⟩
  have hscheme : scheme? (cleaned text) = none :=
    hclean ▸ scheme?_of_noColon fun hmem => hno ':' (by decide) (by decide) ':' hmem rfl
  have hwhole : (Reference.of (cleaned text)).body = text.toList := by
    rw [hclean, body_of_noMarks hmarks]
  obtain ⟨c, rest, hcons, hc⟩ := intercalate_eq_cons hne hparts
  have hjoin := hbase.join_path hscheme ((hwhole.trans htext).trans hcons) (isAnySlash_of_plain hc)
  obtain ⟨hquery, hfragment⟩ := (noMarks_iff _).2 hmarks
  have hliteral : Literal (.web port) text.toList := by
    refine ⟨fun d hd => ?_, fun piece hpiece => ?_⟩
    · exact slashed_web_iff.2 (hno '\\' (by decide) (by decide) d hd)
    · rw [htext, pieces_intercalate hne hparts] at hpiece
      exact (hparts piece hpiece).not_isDots
  refine ⟨_, hjoin, rfl, rfl, ?_, ?_, ?_⟩
  · rw [hwhole]
    refine ((pathText_walkPieces_iff _ (by simp) (List.Sublist.refl _)).2 ⟨rfl, hliteral⟩).trans ?_
    rw [encode_of_plain hchars, String.append_assoc]
  · rw [hclean]
    exact Option.map_eq_none_iff.2 hquery
  · rw [hclean]
    exact Option.map_eq_none_iff.2 hfragment

end HostAgent.Url
