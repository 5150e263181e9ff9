import HostAgent.Proofs.Net.Encoding
import HostAgent.Proofs.Net.Joining

/-!
# Where a path leads

A path is cut at its slashes, and its pieces are followed one after another. Most
pieces extend the path that was reached, but those of dots do not: they stay, or
lead back. What is reached is written with a slash in front of each segment.

A path that is followed from other segments is never longer than these segments
and the path itself. If any piece is of dots it is shorter. So what is written in
the end is what was asked for only if the path stands for itself.

## Main results

* `length_walkPieces_le`, `length_walkPieces_lt`: how long the path can become.
* `walkPieces_of_plain`: pieces without dots are added as they are.
* `pathText_walkPieces_iff`: which texts stand for themselves in a path.
-/

namespace HostAgent.Url

/-! ## Paths as they are written -/

theorem toList_pathText (segments : List String) :
    (pathText (.segments segments)).toList = segments.flatMap fun s => '/' :: s.toList := by
  rw [pathText, String.toList_join, List.flatMap_map]
  simp [String.toList_append]

theorem pathText_append (front back : List String) :
    pathText (.segments (front ++ back)) =
      pathText (.segments front) ++ pathText (.segments back) := by
  simp only [pathText, List.map_append, String.join_append]

theorem pathText_concat (segments : List String) (s : String) :
    pathText (.segments (segments ++ [s])) = pathText (.segments segments) ++ "/" ++ s := by
  rw [pathText_append, String.append_assoc]
  simp [pathText]

theorem length_pathText_concat (segments : List String) (s : String) :
    (pathText (.segments (segments ++ [s]))).length =
      (pathText (.segments segments)).length + 1 + s.length := by
  rw [pathText_concat, String.length_append, String.length_append]
  rfl

/-! ## Segments -/

/-- No encoding makes a slash. -/
theorem slash_not_mem_encode {piece : List Char} (h : '/' ∉ piece) :
    '/' ∉ (Percent.encode pathExtra piece).toList := by
  rw [Percent.encode, String.toList_ofList, List.mem_flatMap]
  rintro ⟨c, hc, hmem⟩
  unfold Percent.encodeChar at hmem
  split at hmem
  · rw [List.mem_flatMap] at hmem
    obtain ⟨b, -, hb⟩ := hmem
    have hdigits : ∀ n < 16, '/' ≠ Percent.upperHex n := by decide
    have hbound : b.toNat < 256 := b.toNat_lt
    simp only [Percent.encodeByte, List.mem_cons, List.not_mem_nil, or_false] at hb
    rcases hb with hb | hb | hb
    · cases hb
    · exact hdigits _ (by omega) hb
    · exact hdigits _ (by omega) hb
  · exact h (List.mem_singleton.1 hmem ▸ hc)

/-! ## Pieces -/

variable {k : SchemeKind}

/-- The piece is one of dots, perhaps encoded ones. -/
def IsDots (piece : List Char) : Prop := dots piece = ['.'] ∨ dots piece = ['.', '.']

instance (piece : List Char) : Decidable (IsDots piece) :=
  inferInstanceAs (Decidable (_ ∨ _))

theorem IsDots.ne_nil {piece : List Char} (h : IsDots piece) : piece ≠ [] := by
  rintro rfl
  rcases h with h | h <;> cases h

theorem step_of_plain {segments : List String} (hk : k ≠ .file) {piece : List Char}
    (h : ¬ IsDots piece) (last : Bool) :
    step k segments piece last = segments ++ [Percent.encode pathExtra piece] := by
  have hdots : dots piece ≠ ['.', '.'] := fun heq => h (.inr heq)
  have hdot : dots piece ≠ ['.'] := fun heq => h (.inl heq)
  simp [step, hdots, hdot, hk]

/-- A piece of dots at the end leaves an empty segment behind it. -/
theorem step_of_dots (segments : List String) {piece : List Char} (h : IsDots piece) :
    step k segments piece true = step k segments piece false ++ [""] := by
  unfold step
  dsimp only
  by_cases hdots : dots piece = ['.', '.']
  · rw [if_pos hdots, if_pos hdots]
    rfl
  · have hdot : dots piece = ['.'] := h.resolve_right hdots
    rw [if_neg hdots, if_pos hdot, if_neg hdots, if_pos hdot]
    rfl

theorem length_parent_le (k : SchemeKind) (segments : List String) :
    (pathText (.segments (parent k segments))).length ≤ (pathText (.segments segments)).length := by
  unfold parent
  split
  · rename_i last hlast
    split
    · exact Nat.le_refl _
    · obtain ⟨front, rfl⟩ := List.getLast?_eq_some_iff.1 hlast
      rw [List.dropLast_concat, length_pathText_concat]
      omega
  · exact Nat.le_refl _

/-- A control among the characters of a piece is no dot. -/
theorem mem_dots {c : Char} (hc : c.toNat ≤ 0x20) {piece : List Char} (h : c ∈ piece) :
    c ∈ dots piece := by
  have hne : ∀ d : Char, 0x20 < d.toNat → c ≠ d := by
    rintro d hd rfl
    omega
  induction piece using dots.induct with
  | case1 rest ih =>
      rw [dots]
      simp [hne '%' (by decide), hne '2' (by decide), hne 'e' (by decide)] at h
      exact List.mem_cons_of_mem _ (ih h)
  | case2 rest ih =>
      rw [dots]
      simp [hne '%' (by decide), hne '2' (by decide), hne 'E' (by decide)] at h
      exact List.mem_cons_of_mem _ (ih h)
  | case3 d rest hsmall hlarge ih =>
      rw [dots.eq_3 _ _ hsmall hlarge]
      rcases List.mem_cons.1 h with rfl | hin
      · exact List.mem_cons_self
      · exact List.mem_cons_of_mem _ (ih hin)
  | case4 => cases h

theorem not_isDots_of_control {front more : List Char} (hne : more ≠ [])
    (hmore : ∀ c ∈ more, c.toNat ≤ 0x20) : ¬ IsDots (front ++ more) := by
  obtain ⟨c, rest, rfl⟩ := List.exists_cons_of_ne_nil hne
  have hc := hmore c List.mem_cons_self
  have hmem : c ∈ dots (front ++ c :: rest) :=
    mem_dots hc (List.mem_append_right _ List.mem_cons_self)
  intro hdots
  have hdot : c = '.' := by
    rcases hdots with heq | heq <;> simpa [heq] using hmem
  rw [hdot] at hc
  exact absurd hc (by decide)

/-- A piece of dots adds a slash at most. -/
theorem length_step_of_dots (segments : List String) {piece : List Char} (h : IsDots piece)
    (last : Bool) :
    (pathText (.segments (step k segments piece last))).length ≤
      (pathText (.segments segments)).length + 1 := by
  have hparent := length_parent_le k segments
  have hclosed : ∀ l : List String, (pathText (.segments (if last then l ++ [""] else l))).length ≤
      (pathText (.segments l)).length + 1 := by
    intro l
    split
    · exact Nat.le_of_eq (length_pathText_concat l "")
    · exact Nat.le_add_right _ _
  unfold step
  dsimp only
  by_cases hdots : dots piece = ['.', '.']
  · rw [if_pos hdots]
    exact Nat.le_trans (hclosed _) (Nat.add_le_add_right hparent 1)
  · rw [if_neg hdots, if_pos (h.resolve_right hdots)]
    exact hclosed _

/-- Pieces as they are written, with a slash in front of each. -/
def written (pieces : List (List Char)) : List Char :=
  pieces.flatMap fun piece => '/' :: piece.flatMap (Percent.encodeChar pathExtra)

theorem length_written_cons (piece : List Char) (rest : List (List Char)) :
    (written (piece :: rest)).length =
      1 + (Percent.encode pathExtra piece).length + (written rest).length := by
  rw [Percent.encode, String.length_ofList, written, List.flatMap_cons, List.length_append,
    List.length_cons, Nat.add_comm 1]
  rfl

theorem length_step_le (segments : List String) (hk : k ≠ .file) (piece : List Char) (last : Bool) :
    (pathText (.segments (step k segments piece last))).length ≤
      (pathText (.segments segments)).length + 1 + (Percent.encode pathExtra piece).length := by
  by_cases h : IsDots piece
  · have hstep := length_step_of_dots (k := k) segments h last
    omega
  · exact Nat.le_of_eq (by rw [step_of_plain hk h, length_pathText_concat])

theorem length_step_lt (segments : List String) {piece : List Char} (h : IsDots piece)
    (last : Bool) :
    (pathText (.segments (step k segments piece last))).length <
      (pathText (.segments segments)).length + 1 + (Percent.encode pathExtra piece).length := by
  have hstep := length_step_of_dots (k := k) segments h last
  have hpos := Percent.length_encode_pos pathExtra h.ne_nil
  omega

/-- Following pieces adds no more than the pieces. -/
theorem length_walkPieces_le (segments : List String) (hk : k ≠ .file) (pieces : List (List Char)) :
    (pathText (.segments (walkPieces k segments pieces))).length ≤
      (pathText (.segments segments)).length + (written pieces).length := by
  induction pieces generalizing segments with
  | nil => exact Nat.le_add_right _ _
  | cons piece rest ih =>
      rw [length_written_cons]
      cases rest with
      | nil =>
          have hstep := length_step_le segments hk piece true
          show (pathText (.segments (step k segments piece true))).length ≤ _
          omega
      | cons next rest =>
          have hstep := length_step_le segments hk piece false
          have hrest := ih (step k segments piece false)
          show (pathText (.segments (walkPieces k (step k segments piece false)
            (next :: rest)))).length ≤ _
          omega

/-- Following pieces of dots adds less. -/
theorem length_walkPieces_lt (segments : List String) (hk : k ≠ .file)
    {pieces : List (List Char)}
    (h : ∃ piece ∈ pieces, IsDots piece) :
    (pathText (.segments (walkPieces k segments pieces))).length <
      (pathText (.segments segments)).length + (written pieces).length := by
  induction pieces generalizing segments with
  | nil =>
      obtain ⟨piece, hpiece, -⟩ := h
      cases hpiece
  | cons piece rest ih =>
      rw [length_written_cons]
      cases rest with
      | nil =>
          obtain ⟨piece', hpiece', hdots⟩ := h
          obtain rfl := List.mem_singleton.1 hpiece'
          have hstep := length_step_lt (k := k) segments hdots true
          show (pathText (.segments (step k segments piece' true))).length < _
          omega
      | cons next rest =>
          show (pathText (.segments (walkPieces k (step k segments piece false)
            (next :: rest)))).length < _
          by_cases hdots : IsDots piece
          · have hstep := length_step_lt (k := k) segments hdots false
            have hrest := length_walkPieces_le (step k segments piece false) hk
              (next :: rest)
            omega
          · have hlater : ∃ piece ∈ next :: rest, IsDots piece := by
              obtain ⟨piece', hpiece', hdots'⟩ := h
              rcases List.mem_cons.1 hpiece' with rfl | hmem
              · exact absurd hdots' hdots
              · exact ⟨piece', hmem, hdots'⟩
            have hstep := length_step_le segments hk piece false
            have hrest := ih (step k segments piece false) hlater
            omega

/-- Pieces without dots are added as they are. -/
theorem walkPieces_of_plain {segments : List String} (hk : k ≠ .file)
    {pieces : List (List Char)}
    (h : ∀ piece ∈ pieces, ¬ IsDots piece) :
    walkPieces k segments pieces = segments ++ pieces.map (Percent.encode pathExtra) := by
  induction pieces generalizing segments with
  | nil => exact (List.append_nil segments).symm
  | cons piece rest ih =>
      have hpiece := h piece List.mem_cons_self
      cases rest with
      | nil => exact step_of_plain hk hpiece true
      | cons next rest =>
          show walkPieces k (step k segments piece false) (next :: rest) = _
          rw [ih fun piece' hmem => h piece' (List.mem_cons_of_mem _ hmem), step_of_plain hk hpiece,
            List.append_assoc]
          rfl

/-! ## Texts -/

/-- What a character of a path becomes: all slashes are written alike. -/
def slashed (k : SchemeKind) (c : Char) : Char := if k.isSlash c then '/' else c

theorem pieces_ne_nil (k : SchemeKind) (cs : List Char) : pieces k cs ≠ [] := by
  cases cs with
  | nil => simp [pieces]
  | cons c cs =>
      unfold pieces
      split
      · simp
      · split <;> simp

/-- The pieces of a text, with slashes in front of them, are a slash and the text. -/
theorem written_pieces (k : SchemeKind) (cs : List Char) :
    written (pieces k cs) =
      '/' :: cs.flatMap fun c => Percent.encodeChar pathExtra (slashed k c) := by
  induction cs with
  | nil => rfl
  | cons c cs ih =>
      obtain ⟨piece, rest, hpieces⟩ := List.exists_cons_of_ne_nil (pieces_ne_nil k cs)
      rw [hpieces] at ih
      have hslash : Percent.encodeChar pathExtra '/' = ['/'] := by decide
      simp only [pieces, hpieces]
      split
      · rename_i hc
        simp only [List.flatMap_cons, slashed, hc, if_true, hslash]
        show '/' :: written (piece :: rest) = _
        rw [ih]
        rfl
      · rename_i hc
        have hwritten : written ((c :: piece) :: rest) =
            '/' :: (Percent.encodeChar pathExtra c ++ (written (piece :: rest)).tail) := by
          simp [written]
        rw [hwritten, ih, List.flatMap_cons, slashed, if_neg hc]
        rfl

theorem slashed_cases (k : SchemeKind) (c : Char) :
    slashed k c = c ∨ (c = '\\' ∧ slashed k c = '/') := by
  unfold slashed
  split
  · rename_i hc
    have hslash : c = '/' ∨ c = '\\' := by
      unfold SchemeKind.isSlash at hc
      simp at hc
      exact hc.imp_right And.right
    exact hslash.imp (fun heq => heq.symm) fun heq => ⟨heq, rfl⟩
  · exact .inl rfl

theorem length_encodeChar_slashed (k : SchemeKind) (c : Char) :
    (Percent.encodeChar pathExtra (slashed k c)).length =
      (Percent.encodeChar pathExtra c).length := by
  rcases slashed_cases k c with heq | ⟨rfl, heq⟩
  · rw [heq]
  · rw [heq]
    decide

theorem length_written_pieces (k : SchemeKind) (cs : List Char) :
    (written (pieces k cs)).length = 1 + (Percent.encode pathExtra cs).length := by
  rw [written_pieces, Percent.encode, String.length_ofList, List.length_cons, List.length_flatMap,
    List.length_flatMap, Nat.add_comm 1]
  simp only [length_encodeChar_slashed]

/-- Slashes of another kind show in what is written. -/
theorem encode_slashed_iff (k : SchemeKind) (cs : List Char) :
    (cs.flatMap fun c => Percent.encodeChar pathExtra (slashed k c)) =
        cs.flatMap (Percent.encodeChar pathExtra) ↔ ∀ c ∈ cs, slashed k c = c := by
  induction cs with
  | nil => simp
  | cons c cs ih =>
      have hchar : Percent.encodeChar pathExtra (slashed k c) = Percent.encodeChar pathExtra c ↔
          slashed k c = c := by
        constructor
        · intro h
          rcases slashed_cases k c with heq | ⟨rfl, heq⟩
          · exact heq
          · rw [heq] at h
            exact absurd h (by decide)
        · intro h
          rw [h]
      rw [List.flatMap_cons, List.flatMap_cons, List.forall_mem_cons, ← ih, ← hchar]
      constructor
      · exact fun h => List.append_inj h (length_encodeChar_slashed k c)
      · rintro ⟨h, hrest⟩
        rw [h, hrest]

/-- The text of pieces without dots. -/
theorem toList_pathText_encode (pieces : List (List Char)) :
    (pathText (.segments (pieces.map (Percent.encode pathExtra)))).toList = written pieces := by
  rw [toList_pathText, List.flatMap_map]
  simp [written, Percent.encode]

theorem toList_slash_encode (cs : List Char) :
    ("/" ++ Percent.encode pathExtra cs).toList =
      '/' :: cs.flatMap (Percent.encodeChar pathExtra) := by
  simp [Percent.encode]

/-- The text stands for itself in a path: no character of it is a mark or a slash of another kind,
and no piece of it is one of dots. -/
structure Literal (k : SchemeKind) (cs : List Char) : Prop where
  slashes : ∀ c ∈ cs, slashed k c = c
  pieces : ∀ piece ∈ pieces k cs, ¬ IsDots piece

/-- What is reached along a text is written as the text only if nothing of it was left out, and the
text stands for itself. -/
theorem pathText_walkPieces_iff (segments : List String) (hk : k ≠ .file) {cs ds : List Char}
    (hsub : cs.Sublist ds) :
    pathText (.segments (walkPieces k segments (pieces k cs))) =
        pathText (.segments segments) ++ "/" ++ Percent.encode pathExtra ds ↔
      cs = ds ∧ Literal k ds := by
  have hlength := length_walkPieces_le segments hk (pieces k cs)
  rw [length_written_pieces] at hlength
  constructor
  · intro h
    have htext := congrArg String.length h
    rw [String.length_append, String.length_append, show "/".length = 1 from rfl] at htext
    have hle : (Percent.encode pathExtra ds).length ≤ (Percent.encode pathExtra cs).length := by
      omega
    obtain rfl : cs = ds := by
      rcases Percent.sublist_eq_or_lt pathExtra hsub with heq | hlt
      · exact heq
      · rw [Percent.encode, Percent.encode, String.length_ofList, String.length_ofList] at hle
        omega
    have hplain : ∀ piece ∈ pieces k cs, ¬ IsDots piece := by
      intro piece hpiece hdots
      have hless := length_walkPieces_lt segments hk ⟨piece, hpiece, hdots⟩
      rw [length_written_pieces] at hless
      omega
    refine ⟨rfl, ?_, hplain⟩
    rw [walkPieces_of_plain hk hplain, pathText_append, String.append_assoc,
      String.append_right_inj] at h
    have hchars := congrArg String.toList h
    rw [toList_pathText_encode, written_pieces, toList_slash_encode] at hchars
    exact (encode_slashed_iff k cs).1 (List.cons.inj hchars).2
  · rintro ⟨rfl, hslashes, hplain⟩
    rw [walkPieces_of_plain hk hplain, pathText_append, String.append_assoc]
    refine congrArg (pathText (.segments segments) ++ ·) (String.toList_inj.1 ?_)
    rw [toList_pathText_encode, written_pieces, toList_slash_encode,
      (encode_slashed_iff k cs).2 hslashes]

end HostAgent.Url
