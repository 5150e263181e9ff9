/-!
# Percent encoding

A byte of a text is written as `%` and two hexadecimal digits wherever it cannot
stand for itself. Which ASCII characters those are depends on the place; all
other characters are always encoded. Decoding leaves a `%` alone that is not
followed by two digits.
-/

namespace HostAgent.Percent

def upperHex (n : Nat) : Char :=
  if n < 10 then Char.ofNat ('0'.toNat + n) else Char.ofNat ('A'.toNat + (n - 10))

def encodeByte (b : UInt8) : List Char :=
  ['%', upperHex (b.toNat / 16), upperHex (b.toNat % 16)]

/-- A control character of ASCII, or no ASCII character. -/
def isControlOrWide (c : Char) : Bool := c.toNat < 0x20 || 0x7F ≤ c.toNat

/-- Does a character have to be encoded, where those of `extra` do besides the controls? -/
def needsEncoding (extra : List Char) (c : Char) : Bool :=
  isControlOrWide c || extra.contains c

/-- A character as it is written in a place. -/
def encodeChar (extra : List Char) (c : Char) : List Char :=
  if needsEncoding extra c then (String.utf8EncodeChar c).flatMap encodeByte else [c]

def encode (extra : List Char) (cs : List Char) : String :=
  String.ofList (cs.flatMap (encodeChar extra))

def hexValue? (b : UInt8) : Option UInt8 :=
  if 0x30 ≤ b ∧ b ≤ 0x39 then some (b - 0x30)
  else if 0x41 ≤ b ∧ b ≤ 0x46 then some (b - 0x41 + 10)
  else if 0x61 ≤ b ∧ b ≤ 0x66 then some (b - 0x61 + 10)
  else none

def decodeBytes : List UInt8 → List UInt8
  | 0x25 :: a :: b :: rest =>
    match hexValue? a, hexValue? b with
    | some x, some y => (16 * x + y) :: decodeBytes rest
    | _, _ => 0x25 :: decodeBytes (a :: b :: rest)
  | b :: rest => b :: decodeBytes rest
  | [] => []

/-- The text that is encoded, unless its bytes are no text. -/
def decode? (cs : List Char) : Option String :=
  String.fromUTF8? ⟨(decodeBytes (cs.flatMap String.utf8EncodeChar)).toArray⟩

end HostAgent.Percent
