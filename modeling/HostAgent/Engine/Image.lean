import HostAgent.Text.Blank

/-!
# References to images

An image is named by a repository and perhaps a tag after a colon, or by a
digest after an `@`. A repository may contain a colon of its own, between the
host of a registry and its port; a slash follows that colon somewhere.

## Main results

* `ImageReference.cutAtLast?_eq_some_iff`: the two parts of a text that is cut at its last mark.
* `ImageReference.split_of_digest`: a reference by digest has no tag.
-/

namespace HostAgent

/-- An image in the form in which it is pulled. -/
structure ImageReference where
  repository : String
  tag : Option String
deriving DecidableEq, Repr

namespace ImageReference

/-- The tag of a reference that names none. -/
def defaultTag : String := "latest"

/-- The characters before and after the last `c`, if there is one. -/
def cutAtLast? (c : Char) (cs : List Char) : Option (List Char × List Char) :=
  if cs.contains c then
    some (((cs.reverse.dropWhile (· != c)).drop 1).reverse, (cs.reverse.takeWhile (· != c)).reverse)
  else none

theorem cutAtLast?_eq_none_iff {c : Char} {cs : List Char} : cutAtLast? c cs = none ↔ c ∉ cs := by
  simp [cutAtLast?]

/-- Cutting at the last mark is cutting the reversed text at its first. -/
theorem cutAtLast?_eq_some_iff {c : Char} {cs front back : List Char} :
    cutAtLast? c cs = some (front, back) ↔ cs = front ++ c :: back ∧ c ∉ back := by
  have hreversed : cutAtLast? c cs = some (front, back) ↔
      Text.cutAt c cs.reverse = (back.reverse, some front.reverse) := by
    by_cases hmem : c ∈ cs
    · cases hdrop : cs.reverse.dropWhile (· != c) with
      | nil =>
          obtain ⟨marks, hcs, hmarks, -⟩ := Text.dropWhile_eq_iff.1 hdrop
          rw [List.append_nil] at hcs
          simpa using hmarks c (hcs ▸ List.mem_reverse.2 hmem)
      | cons d rest =>
          simp [cutAtLast?, Text.cutAt, hmem, hdrop, List.reverse_eq_iff, and_comm]
    · have hnone : Text.cutAt c cs.reverse = (cs.reverse, none) :=
        Text.cutAt_eq_none_iff.2 ⟨rfl, by simpa using hmem⟩
      simp [cutAtLast?_eq_none_iff.2 hmem, hnone]
  rw [hreversed, Text.cutAt_eq_some_iff, List.reverse_eq_iff, List.reverse_append,
    List.reverse_cons, List.reverse_reverse, List.reverse_reverse, List.append_assoc,
    List.mem_reverse]
  exact Iff.rfl

/-- Repository and tag of an image. -/
def split (image : String) : ImageReference :=
  if image.toList.contains '@' then ⟨image, none⟩
  else
    match cutAtLast? ':' image.toList with
    | some (repository, tag) =>
      if tag.contains '/' then ⟨image, some defaultTag⟩
      else ⟨String.ofList repository, some (String.ofList tag)⟩
    | none => ⟨image, some defaultTag⟩

theorem split_of_digest {image : String} (h : image.toList.contains '@' = true) :
    split image = ⟨image, none⟩ := by
  unfold split
  rw [if_pos h]

end ImageReference

end HostAgent
