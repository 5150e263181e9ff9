import HostAgent.Decimal.Floating
import HostAgent.Decimal.Power
import HostAgent.Decimal.Shortest
import HostAgent.KeyMap
import HostAgent.Text.Blank

/-!
# Values of settings

The environment and files give values of different kinds to settings. A text
setting takes the text of any single value, and a number setting takes whatever
can be read as a natural number. A value from the environment is first read as
what it looks like, so that a text setting does not always get the text that was
written.

## Main results

* `SettingValue.toText?_ofText`: a text that looks like nothing else is kept.
* `SettingValue.toNat?_lt`: a number that is taken fits its setting.
-/

namespace HostAgent

inductive SettingValue
  | null
  | bool (value : Bool)
  | int (value : Int)
  | float (value : Binary64)
  | text (value : String)
  /-- A list or a table. -/
  | composite
deriving DecidableEq, Repr

namespace SettingValue

/-- What a text of the environment looks like. -/
def ofText (s : String) : SettingValue :=
  let lower := Text.asciiLower s
  if lower = "true" then .bool true
  else if lower = "false" then .bool false
  else
    match Decimal.int64? s with
    | some n => .int n
    | none =>
      match Decimal.float? s with
      | some x => .float x
      | none => .text s

/-- The text of a single value. -/
def toText? : SettingValue → Option String
  | bool b => some (if b then "true" else "false")
  | int n => some (toString n)
  | float x => some (Decimal.renderPlain x)
  | text s => some s
  | null | composite => none

theorem toText?_ofText {s : String} (ht : Text.asciiLower s ≠ "true")
    (hf : Text.asciiLower s ≠ "false") (hi : Decimal.int64? s = none)
    (hx : Decimal.float? s = none) : (ofText s).toText? = some s := by
  simp only [ofText, if_neg ht, if_neg hf, hi, hx, toText?]

/-- The whole number nearest to a number, of two the one farther from zero; at most the largest
of 64 bits, and zero for what is negative or no number. -/
def rounded (x : Binary64) : Nat := x.toFloat.round.toUInt64.toNat

/-- The number of a text; some words stand for one and zero. -/
def textToNat? (s : String) : Option Nat :=
  let lower := Text.asciiLower s
  if lower = "true" ∨ lower = "on" ∨ lower = "yes" then some 1
  else if lower = "false" ∨ lower = "off" ∨ lower = "no" then some 0
  else Decimal.nat? s

/-- The natural number of a value, if it is below `2^bits`. -/
def toNat? (bits : Nat) (v : SettingValue) : Option Nat :=
  Option.filter (· < twoPow bits) <|
    match v with
    | bool b => some (if b then 1 else 0)
    | int n => if 0 ≤ n then some n.toNat else none
    | float x => some (rounded x)
    | text s => textToNat? s
    | null | composite => none

theorem toNat?_lt {bits n : Nat} {v : SettingValue} (h : v.toNat? bits = some n) :
    n < twoPow bits := by
  simpa using (Option.filter_eq_some_iff.1 h).2

end SettingValue

/-- Settings by name, from one source. -/
abbrev SettingTable : Type := KeyMap SettingValue

end HostAgent
