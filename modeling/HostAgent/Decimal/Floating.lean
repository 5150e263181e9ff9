import HostAgent.Decimal.Binary64
import HostAgent.Decimal.Integer

/-!
# Reading floating-point numbers

A numeral has digits before or after a decimal point, perhaps a sign in front and
an exponent behind. It stands for the nearest floating-point number; one that is
too large is infinite. The names of infinity and of no number at all are read in
any case.

## Main results

* `Decimal.floatOf_zero`: digits that are all zero stand for zero, whatever the exponent.
-/

namespace HostAgent.Decimal

/-- The digits of a numeral and the power of ten of the last one. -/
structure Numeral where
  coefficient : Nat
  exponent : Int
deriving DecidableEq, Repr

/-- Beyond these powers of ten every number is infinite or zero. -/
def farthest : Int := 400

/-- The nearest number. -/
def floatOf (n : Numeral) : Float :=
  let places : Int := (Nat.toDigits 10 n.coefficient).length + n.exponent
  if n.coefficient = 0 then 0
  else if farthest < places then 1 / 0
  else if places < -farthest then 0
  else if 0 ≤ n.exponent then Float.ofScientific n.coefficient false n.exponent.natAbs
  else Float.ofScientific n.coefficient true n.exponent.natAbs

theorem floatOf_zero (e : Int) : floatOf ⟨0, e⟩ = 0 := by simp [floatOf]

/-- The exponent of a numeral: nothing, or a letter and an integer. -/
def exponent? : List Char → Option Int
  | [] => some 0
  | e :: cs =>
    if e = 'e' ∨ e = 'E' then
      match cs with
      | '-' :: ds => (digits? ds).map fun n => -(n : Int)
      | '+' :: ds => (digits? ds).map fun n => (n : Int)
      | ds => (digits? ds).map fun n => (n : Int)
    else none

/-- A numeral without sign. -/
def numeral? (cs : List Char) : Option Numeral := do
  let whole := cs.takeWhile Char.isDigit
  let rest := cs.dropWhile Char.isDigit
  let (fraction, rest) := match rest with
    | '.' :: rest => (rest.takeWhile Char.isDigit, rest.dropWhile Char.isDigit)
    | rest => ([], rest)
  let coefficient ← digits? (whole ++ fraction)
  return ⟨coefficient, (← exponent? rest) - fraction.length⟩

/-- A number without sign, or its name. -/
def unsigned? (cs : List Char) : Option Float :=
  let name := String.ofList (cs.map Char.toLower)
  if name = "inf" ∨ name = "infinity" then some (1 / 0)
  else if name = "nan" then some (0 / 0)
  else (numeral? cs).map floatOf

/-- The number of a text. -/
def float? (s : String) : Option Binary64 :=
  match s.toList with
  | '-' :: cs => (unsigned? cs).map fun x => .ofFloat (-x)
  | '+' :: cs => (unsigned? cs).map .ofFloat
  | cs => (unsigned? cs).map .ofFloat

end HostAgent.Decimal
