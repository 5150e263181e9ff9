/-!
# Punycode

A label of a host name as ASCII: the ASCII characters first, then the others in
increasing order as differences of their position and code point. A difference
is written in base 36 with digits whose weight adapts to the earlier
differences (RFC 3492).
-/

namespace HostAgent.Punycode

def digitChar (d : Nat) : Char :=
  if d < 26 then Char.ofNat ('a'.toNat + d) else Char.ofNat ('0'.toNat + (d - 26))

def digitValue? (c : Char) : Option Nat :=
  if 'a' ≤ c ∧ c ≤ 'z' then some (c.toNat - 'a'.toNat)
  else if 'A' ≤ c ∧ c ≤ 'Z' then some (c.toNat - 'A'.toNat)
  else if '0' ≤ c ∧ c ≤ '9' then some (c.toNat - '0'.toNat + 26)
  else none

/-- The threshold of the digit at a place. -/
def threshold (place bias : Nat) : Nat :=
  if place ≤ bias then 1 else if bias + 26 ≤ place then 26 else place - bias

theorem threshold_bounds (place bias : Nat) :
    1 ≤ threshold place bias ∧ threshold place bias ≤ 26 := by
  unfold threshold
  split
  · omega
  · split <;> omega

def adaptLoop (delta k : Nat) : Nat × Nat :=
  if 455 < delta then adaptLoop (delta / 35) (k + 36) else (delta, k)
termination_by delta
decreasing_by exact Nat.div_lt_self (by omega) (by omega)

/-- The bias after a difference. -/
def adapt (delta count : Nat) (first : Bool) : Nat :=
  let delta := if first then delta / 700 else delta / 2
  let (delta, k) := adaptLoop (delta + delta / count) 0
  k + 36 * delta / (delta + 38)

/-! ## Writing -/

/-- The digits of a difference. -/
def encodeDelta (bias place delta : Nat) : List Char :=
  let t := threshold place bias
  if delta < t then [digitChar delta]
  else
    digitChar (t + (delta - t) % (36 - t)) ::
      encodeDelta bias (place + 36) ((delta - t) / (36 - t))
termination_by delta
decreasing_by
  have h := threshold_bounds place bias
  exact Nat.lt_of_le_of_lt (Nat.div_le_self _ _) (by omega)

/-- Where an encoder is: digits written, difference so far, bias, characters done. -/
structure Encoder where
  out : List Char
  delta : Nat
  bias : Nat
  done : Nat

/-- Pass a character of the label while `point` is being inserted. -/
def Encoder.pass (basic point : Nat) (e : Encoder) (c : Char) : Encoder :=
  if c.toNat < point then { e with delta := e.delta + 1 }
  else if c.toNat = point then
    { out := e.out ++ encodeDelta e.bias 36 e.delta
      delta := 0
      bias := adapt e.delta (e.done + 1) (e.done == basic)
      done := e.done + 1 }
  else e

def encodePoints (label : List Char) (basic : Nat) : List Nat → Nat → Encoder → Encoder
  | [], _, e => e
  | point :: points, next, e =>
    let e := { e with delta := e.delta + (point - next) * (e.done + 1) }
    let e := label.foldl (Encoder.pass basic point) e
    encodePoints label basic points (point + 1) { e with delta := e.delta + 1 }

/-- The code points of a label beyond ASCII, in increasing order, each once. -/
def widePoints (label : List Char) : List Nat :=
  (((label.map Char.toNat).filter (0x80 ≤ ·)).mergeSort (· ≤ ·)).eraseDups

def encode (label : List Char) : List Char :=
  let basic := label.filter (·.toNat < 0x80)
  let start : Encoder := { out := [], delta := 0, bias := 72, done := basic.length }
  (if basic.isEmpty then [] else basic ++ ['-']) ++
    (encodePoints label basic.length (widePoints label) 0x80 start).out

/-! ## Reading -/

/-- A difference and the digits after it. -/
def decodeDelta? (bias : Nat) : Nat → Nat → List Char → Option (Nat × List Char)
  | _, _, [] => none
  | place, weight, c :: cs => do
    let digit ← digitValue? c
    let t := threshold place bias
    if digit < t then some (digit * weight, cs)
    else
      let (rest, cs) ← decodeDelta? bias (place + 36) (weight * (36 - t)) cs
      some (digit * weight + rest, cs)

/-- Insert the characters that the digits describe; the fuel is the number of digits. -/
def decodePoints? : Nat → Nat → Nat → Nat → List Char → List Char → Option (List Char)
  | _, _, _, _, label, [] => some label
  | 0, _, _, _, _, _ :: _ => none
  | fuel + 1, point, index, bias, label, c :: cs => do
    let (delta, cs) ← decodeDelta? bias 36 1 (c :: cs)
    let first : Bool := index == 0
    let count := label.length + 1
    let place := index + delta
    let point := point + place / count
    let index := place % count
    if point < 0x80 ∨ ¬ point.isValidChar then none
    else
      let label := label.take index ++ Char.ofNat point :: label.drop index
      decodePoints? fuel point (index + 1) (adapt delta count first) label cs

def decode? (cs : List Char) : Option (List Char) :=
  let reversed := cs.reverse
  let digits := (reversed.takeWhile (· != '-')).reverse
  let basic := ((reversed.dropWhile (· != '-')).drop 1).reverse
  if basic.all (·.toNat < 0x80) then decodePoints? cs.length 0x80 0 72 basic digits else none

end HostAgent.Punycode
