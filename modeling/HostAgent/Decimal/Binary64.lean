import HostAgent.Decimal.Power

/-!
# Binary floating-point numbers by their bits

A number that is only carried from one text to another is kept as the 64 bits of
its binary form: bits can be compared and printed inside a proof, while the
arithmetic of `Float` cannot. Computation converts at its edges.
-/

namespace HostAgent

/-- The 64 bits of a binary floating-point number: sign, 11 exponent bits, 52 fraction bits. -/
structure Binary64 where
  bits : UInt64
deriving DecidableEq, Repr, Inhabited

namespace Binary64

def ofFloat (x : Float) : Binary64 := ⟨x.toBits⟩

def toFloat (x : Binary64) : Float := Float.ofBits x.bits

def isNegative (x : Binary64) : Bool := x.bits.toNat / twoPow 63 = 1

/-- The eleven exponent bits. -/
def exponentBits (x : Binary64) : Nat := x.bits.toNat / twoPow 52 % twoPow 11

/-- The 52 fraction bits. -/
def fractionBits (x : Binary64) : Nat := x.bits.toNat % twoPow 52

def isNaN (x : Binary64) : Bool := x.exponentBits = 2047 && x.fractionBits ≠ 0

def isInfinite (x : Binary64) : Bool := x.exponentBits = 2047 && x.fractionBits = 0

/-- The whole significand `m` of a finite number `m · 2^scale`. -/
def significand (x : Binary64) : Nat :=
  if x.exponentBits = 0 then x.fractionBits else twoPow 52 + x.fractionBits

/-- The power of two that the significand is counted in. -/
def scale (x : Binary64) : Int :=
  (if x.exponentBits = 0 then 1 else (x.exponentBits : Int)) - 1075

end Binary64

end HostAgent
