import HostAgent.Decimal.Power
import HostAgent.Json.Value

/-!
# The value of a JSON numeral

A numeral without fraction and exponent whose value fits 64 bits is a whole
number. Every other numeral is a floating-point number, computed in two steps:
the leading digits that fit 64 bits make a significand, all later digits of the
whole part only raise the exponent and those of the fraction are dropped; then
the significand is scaled by one power of ten. A numeral too large for a
floating-point number has no value.
-/

namespace HostAgent.Json

/-- Why a text stops being JSON: a character that cannot stand there, or no more text. -/
inductive Fault
  | malformed
  | unfinished
deriving DecidableEq, Repr

/-- The parts of a numeral, digits by value. -/
structure Numeral where
  negative : Bool
  whole : List Nat
  fraction : Option (List Nat)
  /-- Is the exponent negative, and its digits. -/
  exponent : Option (Bool × List Nat)
deriving Repr

namespace Numeral

/-- Digits are taken into the significand while it stays below `2^64`. -/
def gather (significand : Nat) : List Nat → Nat × List Nat
  | [] => (significand, [])
  | d :: ds =>
    let next := 10 * significand + d
    if next < twoPow 64 then gather next ds else (significand, d :: ds)

/-- `10^n` as a floating-point number, for `n ≤ 308`. -/
def powerOfTen (n : Nat) : Float := Float.ofScientific 1 false n

/-- `f · 10^exponent`, divided in steps where the power itself is out of range. -/
def scaled (f : Float) (exponent : Int) : Except Fault Float :=
  if exponent.natAbs ≤ 308 then
    if 0 ≤ exponent then
      let g := f * powerOfTen exponent.natAbs
      if g.isInf then .error .malformed else .ok g
    else .ok (f / powerOfTen exponent.natAbs)
  else if f == 0 then .ok f
  else if 0 ≤ exponent then .error .malformed
  else scaled (f / powerOfTen 308) (exponent + 308)
termination_by exponent.natAbs
decreasing_by omega

/-- An exponent clamped to 32 bits. -/
def clampExponent (e : Int) : Int := max (-(twoPow 31 : Int)) (min ((twoPow 31 : Int) - 1) e)

def floatValue (n : Numeral) : Except Fault Binary64 := do
  let (whole, late) := gather 0 n.whole
  let (significand, start) :=
    match n.fraction with
    | none => (whole, (late.length : Int))
    | some digits =>
      let (s, unused) := gather whole digits
      (s, (late.length : Int) - (digits.length - unused.length : Nat))
  let signed (f : Float) : Binary64 := .ofFloat (if n.negative then -f else f)
  match n.exponent with
  | none => signed <$> scaled significand.toUInt64.toFloat start
  | some (down, digits) =>
    let e : Nat := digits.foldl (fun acc d => 10 * acc + d) 0
    if twoPow 31 ≤ e then
      if significand ≠ 0 && !down then .error .malformed else .ok (signed 0)
    else
      let e : Int := if down then start - e else start + e
      signed <$> scaled significand.toUInt64.toFloat (clampExponent e)

/-- The number a numeral denotes. -/
def value (n : Numeral) : Except Fault Number :=
  match n.fraction, n.exponent, gather 0 n.whole with
  | none, none, (v, []) =>
    if n.negative then
      if v = 0 then .ok (.float (.ofFloat (-0.0)))
      else if v ≤ twoPow 63 then .ok (.int (-v))
      else .ok (.float (.ofFloat (-v.toUInt64.toFloat)))
    else .ok (.int v)
  | _, _, _ => .float <$> n.floatValue

end Numeral

end HostAgent.Json
