import HostAgent.Decimal.Binary64
import HostAgent.Decimal.Power

/-!
# The shortest decimal text of a floating-point number

A finite number `m · 2^q` is the nearest one to every real in an interval around
it, whose ends belong to it when `m` is even. `shortest` takes the coarsest
decimal grid that has a point in this interval; of two such points it takes the
nearer, and the upper one when they are equally near. All comparisons are exact.

How the digits are set out is a `Form`: where a plain decimal point is used
instead of an exponent, and whether whole numbers keep a point.
-/

namespace HostAgent.Decimal

/-- The digits of a positive number and the power of ten of the last one. -/
structure Digits where
  coefficient : Nat
  exponent : Int
deriving DecidableEq, Repr

def decimalLength (n : Nat) : Nat := (Nat.toDigits 10 n).length

/-- The power of ten of the leading digit of `num / den`. -/
def magnitude (num den : Nat) : Int :=
  if den ≤ num then (decimalLength (num / den) : Int) - 1
  else
    let k := decimalLength (den / num)
    if den ≤ num * tenPow (k - 1) then -((k : Int) - 1) else -(k : Int)

/-- `10^e` as numerator and denominator. -/
def tenScale (e : Int) : Nat × Nat :=
  if 0 ≤ e then (tenPow e.toNat, 1) else (1, tenPow (-e).toNat)

/-- `2^e` as numerator and denominator. -/
def twoScale (e : Int) : Nat × Nat :=
  if 0 ≤ e then (twoPow e.toNat, 1) else (1, twoPow (-e).toNat)

/-- The interval of the reals nearest to a number, in quarters of its last place. -/
structure Neighbourhood where
  low : Nat
  centre : Nat
  high : Nat
  closed : Bool
  /-- The value of a quarter of the last place, as numerator and denominator. -/
  quarter : Nat × Nat

def Neighbourhood.of (x : Binary64) : Neighbourhood :=
  let m := x.significand
  let narrow := x.fractionBits = 0 && 1 < x.exponentBits
  { low := 4 * m - (if narrow then 1 else 2)
    centre := 4 * m
    high := 4 * m + 2
    closed := m % 2 = 0
    quarter := twoScale (x.scale - 2) }

/-- Is `c · 10^e` in the interval? -/
def Neighbourhood.holds (n : Neighbourhood) (c : Nat) (e : Int) : Bool :=
  let (tn, td) := tenScale e
  let p := c * tn * n.quarter.2
  let lo := n.low * n.quarter.1 * td
  let hi := n.high * n.quarter.1 * td
  if n.closed then lo ≤ p && p ≤ hi else lo < p && p < hi

/-- The point of the grid of `count` digits that stands for the number, if there is one. -/
def onGrid (n : Neighbourhood) (count : Nat) : Option Digits :=
  let num := n.centre * n.quarter.1
  let den := n.quarter.2
  let e := magnitude num den + 1 - count
  let (tn, td) := tenScale e
  let c := num * td / (den * tn)
  let below := n.holds c e
  let above := n.holds (c + 1) e
  let nearBelow : Bool := 2 * (num * td) < (2 * c + 1) * (den * tn)
  if below && (!above || nearBelow) then some ⟨c, e⟩
  else if above then some ⟨c + 1, e⟩
  else none

/-- Trailing zeros of the coefficient moved to the exponent. -/
def Digits.normal : Nat → Digits → Digits
  | 0, d => d
  | fuel + 1, d =>
    if d.coefficient ≠ 0 && d.coefficient % 10 = 0 then
      Digits.normal fuel ⟨d.coefficient / 10, d.exponent + 1⟩
    else d

/-- The shortest digits that read back as the positive number `x`. Seventeen always do. -/
def shortest (x : Binary64) : Digits :=
  let n := Neighbourhood.of x
  let found := (List.range 17).findSome? fun k => onGrid n (k + 1)
  (found.getD ⟨0, 0⟩).normal 20

/-- How digits are set out. -/
structure Form where
  /-- Is a number positional whose leading digit stands this many places before the point? -/
  positional : Int → Bool
  /-- Do whole numbers keep a point and a zero? -/
  keepPoint : Bool

/-- The text of digits, in the given form. -/
def Digits.render (form : Form) (d : Digits) : String :=
  let ds := toString d.coefficient
  let places : Int := ds.length + d.exponent
  if form.positional places then
    if 0 ≤ d.exponent then
      ds ++ String.ofList (List.replicate d.exponent.toNat '0') ++
        (if form.keepPoint then ".0" else "")
    else if 0 < places then
      String.ofList (ds.toList.take places.toNat) ++ "." ++
        String.ofList (ds.toList.drop places.toNat)
    else "0." ++ String.ofList (List.replicate (-places).toNat '0') ++ ds
  else
    let lead := String.ofList (ds.toList.take 1)
    let rest := String.ofList (ds.toList.drop 1)
    lead ++ (if rest.isEmpty then "" else "." ++ rest) ++ "e" ++ toString (places - 1)

/-- The text of a finite number. -/
def render (form : Form) (x : Binary64) : String :=
  (if x.isNegative then "-" else "") ++
    (if x.significand = 0 then (if form.keepPoint then "0.0" else "0")
     else (shortest x).render form)

/-- Always positional, and a whole number has no point. -/
def plain : Form := ⟨fun _ => true, false⟩

/-- The plain text of any number, with names for those that are not finite. -/
def renderPlain (x : Binary64) : String :=
  if x.isNaN then "NaN"
  else if x.isInfinite then (if x.isNegative then "-inf" else "inf")
  else render plain x

end HostAgent.Decimal
