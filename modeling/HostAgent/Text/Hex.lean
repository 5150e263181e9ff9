/-!
# Hexadecimal digits

Digits of both cases, the numbers they make, and the characters that are named by
their code points in escapes.

## Main results

* `Text.hexDigit?_lt`: a digit is below sixteen.
-/

namespace HostAgent.Text

/-- The value of a hexadecimal digit. -/
def hexDigit? (c : Char) : Option Nat :=
  if '0' ≤ c ∧ c ≤ '9' then some (c.toNat - '0'.toNat)
  else if 'a' ≤ c ∧ c ≤ 'f' then some (c.toNat - 'a'.toNat + 10)
  else if 'A' ≤ c ∧ c ≤ 'F' then some (c.toNat - 'A'.toNat + 10)
  else none

theorem hexDigit?_lt {c : Char} {n : Nat} (h : hexDigit? c = some n) : n < 16 := by
  simp only [hexDigit?, Char.le_def, UInt32.le_iff_toNat_le] at h
  have toNat_val (d : Char) : d.val.toNat = d.toNat := rfl
  simp only [toNat_val, Char.reduceToNat] at h
  grind

/-- The number of a list of digits in a base. -/
def ofDigits (base : Nat) (values : List Nat) : Nat :=
  values.foldl (fun n d => base * n + d) 0

/-- The character of a code point in hexadecimal digits. -/
def codePoint? (digits : List Char) : Option Char := do
  let n := ofDigits 16 (← digits.mapM hexDigit?)
  if n.isValidChar then some (Char.ofNat n) else none

end HostAgent.Text
