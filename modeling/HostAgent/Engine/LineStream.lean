import HostAgent.Json.Decode
import HostAgent.Text.Blank

/-!
# Streams of JSON values

A response that goes on is a sequence of JSON values, one on each line. A line
that ends in the middle of a value goes on with the next line. A line that is no
value ends the stream with a fault, and so does a value that is not finished when
the response ends.

## Main results

* `LineStream.length_lt_of_next`: reading a value leaves less of the text.
-/

namespace HostAgent.LineStream

open Json (Decoder)

variable {α : Type}

/-- What a text starts with. -/
inductive Next (α : Type)
  | value (a : α) (rest : List Char)
  /-- No value yet; what is there so far. -/
  | unfinished (text : List Char)
  | faulty

/-- The value on a line, unless it is not finished. -/
def onLine (d : Decoder α) (line : List Char) : Except Unit (Option α) :=
  match Json.decodeText d.option (String.ofList line) with
  | .ok a => .ok a
  | .error .unfinished => .ok none
  | .error _ => .error ()

def next (d : Decoder α) (text : List Char) : Next α :=
  match text with
  | [] => .unfinished []
  | text =>
    match onLine d (Text.cutAt '\n' text).1 with
    | .ok (some a) => .value a ((Text.cutAt '\n' text).2.getD [])
    | .ok none => .unfinished ((Text.cutAt '\n' text).1 ++ (Text.cutAt '\n' text).2.getD [])
    | .error _ => .faulty

theorem length_cutAt_lt (c : Char) {cs : List Char} (h : cs ≠ []) :
    ((Text.cutAt c cs).2.getD []).length < cs.length := by
  have hpos : 0 < cs.length := List.length_pos_iff.2 h
  have hle := (List.dropWhile_sublist (fun x => x != c) (l := cs)).length_le
  unfold Text.cutAt
  split
  · simpa using hpos
  · rename_i d rest heq
    rw [heq, List.length_cons] at hle
    exact hle

theorem length_lt_of_next {d : Decoder α} {text rest : List Char} {a : α}
    (h : next d text = .value a rest) : rest.length < text.length := by
  unfold next at h
  split at h
  · contradiction
  · rename_i hne
    split at h
    · injection h with _ hrest
      exact hrest ▸ length_cutAt_lt '\n' hne
    · contradiction
    · contradiction

/-- The values of a text in order. `ended` tells that the response has ended; until then an
unfinished value may still go on. -/
def valuesFrom (d : Decoder α) (ended : Bool) (text : List Char) : List (Except Unit α) :=
  match _h : next d text with
  | .value a rest => .ok a :: valuesFrom d ended rest
  | .unfinished rest =>
    match ended with
    | false => valuesFrom d true rest
    | true => if rest.isEmpty then [] else [.error ()]
  | .faulty => [.error ()]
termination_by (if ended then 0 else 1, text.length)
decreasing_by
  · exact Prod.Lex.right _ (length_lt_of_next (by assumption))
  · exact Prod.Lex.left _ _ (by decide)

/-- The values of a response, up to the first fault. -/
def values (d : Decoder α) (text : String) : List (Except Unit α) :=
  valuesFrom d false text.toList

end HostAgent.LineStream
