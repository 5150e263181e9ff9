import HostAgent.Decimal.Power
import HostAgent.Text.Blank
import HostAgent.Time.Timestamp

/-!
# Reading timestamps

Two readers. The strict one takes the interchange form: fields of fixed width,
`T`, `t` or a blank between date and time, any number of fraction digits, and a
zone. The relaxed one also takes shorter fields, blanks around the parts, years
with a sign, the zone `UTC`, and a zone without colon. Both keep nine fraction
digits and drop the others.
-/

namespace HostAgent.Timestamp

def digit? (c : Char) : Option Nat :=
  if '0' ≤ c ∧ c ≤ '9' then some (c.toNat - '0'.toNat) else none

/-- The digits at the start of a text, at most so many, and the text after them. -/
def leadingDigits : Nat → List Char → List Nat × List Char
  | 0, cs => ([], cs)
  | _ + 1, [] => ([], [])
  | n + 1, c :: cs =>
    match digit? c with
    | none => ([], c :: cs)
    | some d =>
      let (ds, rest) := leadingDigits n cs
      (d :: ds, rest)

def ofDigits (ds : List Nat) : Nat := ds.foldl (fun acc d => 10 * acc + d) 0

/-- A number of `least` to `most` digits. -/
def number? (least most : Nat) (cs : List Char) : Option (Nat × List Char) :=
  let (ds, rest) := leadingDigits most cs
  if least ≤ ds.length then some (ofDigits ds, rest) else none

def dropBlanks (cs : List Char) : List Char := cs.dropWhile Text.isBlank

/-- A given character. -/
def char? (c : Char) : List Char → Option (List Char)
  | d :: rest => if d = c then some rest else none
  | [] => none

/-- The mark between date and time. -/
def dateEnd? : List Char → Option (List Char)
  | c :: rest => if c = 'T' ∨ c = 't' ∨ c = ' ' then some rest else none
  | [] => none

/-- A fraction of a second in nanoseconds; without a point it is zero. -/
def fraction? (cs : List Char) : Option (Nat × List Char) :=
  match cs with
  | '.' :: rest =>
    match leadingDigits 9 rest with
    | ([], _) => none
    | (ds, rest) =>
      some (ofDigits ds * tenPow (9 - ds.length), rest.dropWhile fun c => (digit? c).isSome)
  | cs => some (0, cs)

/-- Minutes east of a zone: `Z`, or a sign, two digits, a separator, and two digits up to 59. -/
def zone? (separator : List Char → Option (List Char)) (cs : List Char) :
    Option (Int × List Char) :=
  let rest (east : Bool) (cs : List Char) : Option (Int × List Char) := do
    let (hours, cs) ← number? 2 2 cs
    let cs ← separator cs
    let (minutes, cs) ← number? 2 2 cs
    if minutes < 60 then
      let total : Int := hours * 60 + minutes
      some (if east then total else -total, cs)
    else none
  match cs with
  | 'Z' :: cs | 'z' :: cs => some (0, cs)
  | '+' :: cs => rest true cs
  | '-' :: cs | '\u2212' :: cs => rest false cs
  | _ => none

/-! ## The strict form -/

/-- The strict form: every field has its full width. -/
def readStrict? (text : String) : Option Timestamp := do
  let cs := text.toList
  let (year, cs) ← number? 4 4 cs
  let cs ← char? '-' cs
  let (month, cs) ← number? 2 2 cs
  let cs ← char? '-' cs
  let (day, cs) ← number? 2 2 cs
  let cs ← dateEnd? cs
  let (hour, cs) ← number? 2 2 cs
  let cs ← char? ':' cs
  let (minute, cs) ← number? 2 2 cs
  let cs ← char? ':' cs
  let (second, cs) ← number? 2 2 cs
  let (nanos, cs) ← fraction? cs
  let (offset, cs) ← zone? (char? ':') cs
  if cs.isEmpty then ofLocal? ⟨⟨year, month, day⟩, hour, minute, second, nanos⟩ offset else none

/-! ## The relaxed form -/

/-- A year: up to four digits, or a sign and any number of digits. -/
def year? (cs : List Char) : Option (Int × List Char) :=
  match dropBlanks cs with
  | '-' :: rest => (number? 1 rest.length rest).map fun (n, cs) => (-(n : Int), cs)
  | '+' :: rest => (number? 1 rest.length rest).map fun (n, cs) => ((n : Int), cs)
  | cs => (number? 1 4 cs).map fun (n, cs) => ((n : Int), cs)

/-- A field of one or two digits after blanks. -/
def field? (cs : List Char) : Option (Nat × List Char) := number? 1 2 (dropBlanks cs)

/-- A mark after blanks. -/
def mark? (c : Char) (cs : List Char) : Option (List Char) := char? c (dropBlanks cs)

/-- `UTC` in any case, or a zone whose parts are separated by any colons and blanks. -/
def namedZone? (cs : List Char) : Option (Int × List Char) :=
  match cs with
  | a :: b :: c :: rest =>
    if a.toLower = 'u' ∧ b.toLower = 't' ∧ c.toLower = 'c' then some (0, rest)
    else zone? separator cs
  | cs => zone? separator cs
where
  separator (cs : List Char) : Option (List Char) :=
    some (cs.dropWhile fun c => c == ':' || Text.isBlank c)

/-- The relaxed form. -/
def read? (text : String) : Option Timestamp := do
  let (year, cs) ← year? text.toList
  let cs ← mark? '-' cs
  let (month, cs) ← field? cs
  let cs ← mark? '-' cs
  let (day, cs) ← field? cs
  let cs ← dateEnd? cs
  let (hour, cs) ← field? cs
  let cs ← mark? ':' cs
  let (minute, cs) ← field? cs
  let cs ← mark? ':' cs
  let (second, cs) ← field? cs
  let (nanos, cs) ← fraction? cs
  let (offset, cs) ← namedZone? (dropBlanks cs)
  if (dropBlanks cs).isEmpty then
    ofLocal? ⟨⟨year, month, day⟩, hour, minute, second, nanos⟩ offset
  else none

end HostAgent.Timestamp
