import HostAgent.Decimal.Power

/-!
# Whole numbers in decimal digits

The texts that stand for a whole number: digits, perhaps after a plus sign, and
for an integer perhaps after a minus sign. Leading zeros do not matter; blanks
and separators are not allowed.

## Main results

* `Decimal.natOfDigits_append`: digits are read from the left.
-/

namespace HostAgent.Decimal

/-- The value of a list of decimal digits. -/
def natOfDigits (cs : List Char) : Nat :=
  cs.foldl (fun n c => 10 * n + (c.toNat - '0'.toNat)) 0

theorem natOfDigits_append (cs : List Char) (c : Char) :
    natOfDigits (cs ++ [c]) = 10 * natOfDigits cs + (c.toNat - '0'.toNat) := by
  simp [natOfDigits, List.foldl_append]

/-- The number of one or more digits. -/
def digits? (cs : List Char) : Option Nat :=
  if !cs.isEmpty && cs.all Char.isDigit then some (natOfDigits cs) else none

/-- The number of digits, perhaps after a plus sign. -/
def natChars? : List Char → Option Nat
  | '+' :: cs => digits? cs
  | cs => digits? cs

/-- The natural number of a text. -/
def nat? (s : String) : Option Nat := natChars? s.toList

/-- The natural number of a text, if it is below `2^bits`. -/
def natBelow? (bits : Nat) (s : String) : Option Nat := (nat? s).filter (· < twoPow bits)

/-- The integer of a text. -/
def int? (s : String) : Option Int :=
  match s.toList with
  | '-' :: cs => (digits? cs).map fun n => -(n : Int)
  | cs => (natChars? cs).map fun n => (n : Int)

/-- Does an integer fit 64 bits with a sign? -/
def isInt64 (n : Int) : Bool := -(twoPow 63 : Int) ≤ n && n < (twoPow 63 : Int)

/-- The integer of a text, if it fits 64 bits with a sign. -/
def int64? (s : String) : Option Int := (int? s).filter isInt64

end HostAgent.Decimal
