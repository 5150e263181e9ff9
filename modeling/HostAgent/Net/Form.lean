import HostAgent.Net.Percent
import HostAgent.Text.Blank

/-!
# Form encoding

Names and values as a query: letters, digits and four marks stand for
themselves, a blank is `+`, and every other byte is percent-encoded.
-/

namespace HostAgent.Form

def encodeByte (b : UInt8) : List Char :=
  let c := Char.ofNat b.toNat
  if c.isAlphanum || c == '*' || c == '-' || c == '.' || c == '_' then [c]
  else if c == ' ' then ['+']
  else Percent.encodeByte b

def encode (s : String) : String :=
  String.ofList ((s.toList.flatMap String.utf8EncodeChar).flatMap encodeByte)

/-- A query with more pairs at its end. -/
def extend (query : String) (pairs : List (String × String)) : String :=
  pairs.foldl
    (fun q p => (if q = "" then "" else q ++ "&") ++ encode p.1 ++ "=" ++ encode p.2) query

/-! ## Reading -/

/-- A piece of a query as text. -/
def decode (piece : List Char) : String :=
  (Percent.decode? (piece.map fun c => if c = '+' then ' ' else c)).getD (String.ofList piece)

/-- The pieces of a text between its `&`. -/
def pieces : List Char → List (List Char)
  | [] => [[]]
  | c :: cs =>
    match pieces cs with
    | [] => [[c]]
    | piece :: rest => if c = '&' then [] :: piece :: rest else (c :: piece) :: rest

/-- Names and values of a query. -/
def pairs (query : String) : List (String × String) :=
  ((pieces query.toList).filter (!·.isEmpty)).map fun piece =>
    (decode (Text.cutAt '=' piece).1, decode ((Text.cutAt '=' piece).2.getD []))

end HostAgent.Form
