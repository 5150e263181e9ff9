import HostAgent.Settings.Toml.Text
import HostAgent.Settings.Value
import HostAgent.Time.Timestamp

/-!
# TOML: numbers and dates

The values that are written without quotation marks. Underscores may stand
between digits. A date or a time is a text to a setting.
-/

namespace HostAgent.Toml

/-- Digits without the underscores between them. -/
def separated? (isDigit : Char → Bool) (cs : List Char) : Option (List Char) :=
  let isEdge (c : Option Char) : Bool := c.any isDigit
  let isWell : Bool :=
    isEdge cs.head? && isEdge cs.getLast? && cs.all (fun c => isDigit c || c == '_') &&
      (cs.zip cs.tail).all fun p => p.1 != '_' || p.2 != '_'
  if isWell then some (cs.filter (· != '_')) else none

/-- A sign, and what follows it. -/
def sign (cs : List Char) : Bool × List Char :=
  match cs with
  | '-' :: cs => (true, cs)
  | '+' :: cs => (false, cs)
  | cs => (false, cs)

/-- Digits of a base after its mark. -/
def based? (base : Nat) (cs : List Char) : Option Int := do
  let isDigit (c : Char) : Bool := (Text.hexDigit? c).any (· < base)
  let digits ← separated? isDigit cs
  return (Text.ofDigits base (digits.filterMap Text.hexDigit?) : Nat)

/-- Decimal digits without a zero in front. -/
def whole? (cs : List Char) : Option (List Char) := do
  let digits ← separated? Char.isDigit cs
  if 1 < digits.length && digits.head? = some '0' then none else some digits

def int? (cs : List Char) : Option Int :=
  match cs with
  | '0' :: 'x' :: cs => based? 16 cs
  | '0' :: 'o' :: cs => based? 8 cs
  | '0' :: 'b' :: cs => based? 2 cs
  | cs => do
    let (negative, cs) := sign cs
    let n := Decimal.natOfDigits (← whole? cs)
    return if negative then -(n : Int) else n

def int64? (cs : List Char) : Option Int := (int? cs).filter Decimal.isInt64

/-- The whole part, the fraction and the exponent of a number without sign, free of underscores. -/
def floatChars? (cs : List Char) : Option (List Char) := do
  let isEnd (c : Char) : Bool := c == '.' || c == 'e' || c == 'E'
  let whole ← whole? (cs.takeWhile (!isEnd ·))
  let rest := cs.dropWhile (!isEnd ·)
  let (fraction, rest) ← match rest with
    | '.' :: rest => do
      let digits ← separated? Char.isDigit (rest.takeWhile (!isEnd ·))
      some ('.' :: digits, rest.dropWhile (!isEnd ·))
    | rest => some ([], rest)
  match rest with
  | [] => if fraction.isEmpty then none else some (whole ++ fraction)
  | '.' :: _ => none
  | _ :: rest =>
    let (negative, digits) := sign rest
    let digits ← separated? Char.isDigit digits
    return whole ++ fraction ++ ('e' :: (if negative then ['-'] else []) ++ digits)

/-- A number with a point, an exponent or a name. Too large a number is none. -/
def float? (cs : List Char) : Option Binary64 := do
  let (negative, cs) := sign cs
  let signed (x : Float) : Binary64 := .ofFloat (if negative then -x else x)
  if cs = "inf".toList then return signed (1 / 0)
  if cs = "nan".toList then return signed (0 / 0)
  let x := signed ((Decimal.numeral? (← floatChars? cs)).elim 0 Decimal.floatOf)
  if x.isInfinite && !negative then none else some x

/-! ## Dates and times -/

/-- Digits of a fixed number. -/
def fixed? (count : Nat) (cs : List Char) : Option (Nat × List Char) :=
  if (cs.take count).length = count && (cs.take count).all Char.isDigit then
    some (Decimal.natOfDigits (cs.take count), cs.drop count)
  else none

def expect? (c : Char) (cs : List Char) : Option (List Char) :=
  match cs with
  | d :: rest => if d = c then some rest else none
  | [] => none

open Timestamp (padded)

def date (cs : List Char) : Option (List Char × List Char) := do
  let (year, cs) ← fixed? 4 cs
  let (month, cs) ← fixed? 2 (← expect? '-' cs)
  let (day, cs) ← fixed? 2 (← expect? '-' cs)
  if 1 ≤ day && day ≤ Calendar.daysIn year month then
    some (padded 4 year ++ '-' :: padded 2 month ++ '-' :: padded 2 day, cs)
  else none

/-- The digits of a fraction of a second, up to nine and without zeros behind. -/
def fractionText (digits : List Char) : List Char :=
  let kept := ((digits.take 9).reverse.dropWhile (· == '0')).reverse
  if kept.isEmpty then [] else '.' :: kept

def time (cs : List Char) : Option (List Char × List Char) := do
  let (hour, cs) ← fixed? 2 cs
  let (minute, cs) ← fixed? 2 (← expect? ':' cs)
  let (second, cs) ← fixed? 2 (← expect? ':' cs)
  if 24 ≤ hour || 60 ≤ minute || 60 < second then none
  let (fraction, cs) ← match cs with
    | '.' :: rest =>
      let digits := rest.takeWhile Char.isDigit
      if digits.isEmpty then none else some (fractionText digits, rest.dropWhile Char.isDigit)
    | cs => some ([], cs)
  return (padded 2 hour ++ ':' :: padded 2 minute ++ ':' :: padded 2 second ++ fraction, cs)

def offset (cs : List Char) : Option (List Char × List Char) :=
  match cs with
  | [] => some ([], [])
  | c :: rest =>
    if c = 'Z' || c = 'z' then some (['Z'], rest)
    else if c = '+' || c = '-' then do
      let (hours, cs) ← fixed? 2 rest
      let (minutes, cs) ← fixed? 2 (← expect? ':' cs)
      if 24 ≤ hours || 60 ≤ minutes then none
      return (c :: padded 2 hours ++ ':' :: padded 2 minutes, cs)
    else none

/-- A date, a time, or both and perhaps an offset. -/
def moment? (cs : List Char) : Option String :=
  match date cs with
  | none => match time cs with
    | some (t, []) => some (String.ofList t)
    | _ => none
  | some (d, []) => some (String.ofList d)
  | some (d, c :: rest) =>
    if c = 'T' || c = 't' || c = ' ' then do
      let (t, rest) ← time rest
      match ← offset rest with
      | (o, []) => return String.ofList (d ++ 'T' :: t ++ o)
      | _ => none
    else none

/-! ## Values without quotation marks -/

def isScalarChar (c : Char) : Bool :=
  c.isAlphanum || c == '_' || c == '-' || c == '+' || c == '.' || c == ':'

/-- The characters of a value; a date may go on after a blank. -/
def scalarChars (cs : List Char) : List Char × List Char :=
  let front := cs.takeWhile isScalarChar
  let behind := cs.dropWhile isScalarChar
  match date front, behind with
  | some (_, []), ' ' :: d :: rest =>
    if d.isDigit then
      (front ++ ' ' :: (d :: rest).takeWhile isScalarChar, (d :: rest).dropWhile isScalarChar)
    else (front, behind)
  | _, _ => (front, behind)

def scalar? (cs : List Char) : Option SettingValue :=
  if cs = "true".toList then some (.bool true)
  else if cs = "false".toList then some (.bool false)
  else
    match int64? cs with
    | some n => some (.int n)
    | none =>
      match float? cs with
      | some x => some (.float x)
      | none => (moment? cs).map .text

end HostAgent.Toml
