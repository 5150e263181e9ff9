import HostAgent.Net.Punycode
import HostAgent.Text.Printable

/-!
# Domain names

A domain name is written in ASCII: letters become small, the characters that
stand for a full stop become one, and a label with other characters is written
in Punycode. Characters that separate the parts of an address cannot occur.
-/

namespace HostAgent.Domain

/-- The small letter of a capital of the Latin, Greek and Cyrillic alphabets, the common form of a
wide character, and a full stop for the characters that stand for one. -/
def mapped (c : Char) : Char :=
  let n := c.toNat
  let shifted (by_ : Nat) : Char := Char.ofNat (n + by_)
  if n < 0x80 then c.toLower
  else if 0xC0 ≤ n && n ≤ 0xDE && n ≠ 0xD7 then shifted 32
  else if (0x100 ≤ n && n ≤ 0x12F) || (0x132 ≤ n && n ≤ 0x137) || (0x14A ≤ n && n ≤ 0x177) then
    if n % 2 = 0 then shifted 1 else c
  else if (0x139 ≤ n && n ≤ 0x148) || (0x179 ≤ n && n ≤ 0x17E) then
    if n % 2 = 1 then shifted 1 else c
  else if 0x391 ≤ n && n ≤ 0x3AB && n ≠ 0x3A2 then shifted 32
  else if 0x400 ≤ n && n ≤ 0x40F then shifted 80
  else if 0x410 ≤ n && n ≤ 0x42F then shifted 32
  else if 0x460 ≤ n && n ≤ 0x481 then (if n % 2 = 0 then shifted 1 else c)
  else if n = 0x3002 || n = 0xFF0E || n = 0xFF61 then '.'
  else if 0xFF01 ≤ n && n ≤ 0xFF5E then (Char.ofNat (n - 0xFEE0)).toLower
  else c

/-- Characters that leave no trace in a domain name: soft hyphens, joiners of words, and the choice
of a variant. -/
def isIgnored (c : Char) : Bool :=
  let n := c.toNat
  n = 0xAD || n = 0x34F || n = 0x200B || n = 0x2060 || n = 0x2064 || n = 0xFEFF ||
    (0x180B ≤ n && n ≤ 0x180F && n ≠ 0x180E) || (0xFE00 ≤ n && n ≤ 0xFE0F) ||
    (0xE0100 ≤ n && n ≤ 0xE01EF)

/-- Characters that cannot occur in a domain name. -/
def isForbidden (c : Char) : Bool :=
  if c.toNat < 0x80 then c.toNat ≤ 0x20 || c.toNat = 0x7F || "%#/:<>?@[\\]^|".toList.contains c
  else !Text.isPrintable c

def isAscii (cs : List Char) : Bool := cs.all (·.toNat < 0x80)

/-- The mark of a label in Punycode. -/
def wideMark : List Char := ['x', 'n', '-', '-']

/-- A label that is its own common form and needs Punycode. -/
def isWide (cs : List Char) : Bool :=
  !isAscii cs && cs.all fun c => mapped c == c && !isIgnored c && !isForbidden c

/-- A label in ASCII. One that is marked must stand for a label that needs it. -/
def label? (cs : List Char) : Option (List Char) :=
  if isAscii cs then
    if cs.take 4 = wideMark then
      match Punycode.decode? (cs.drop 4) with
      | some wide => if isWide wide && Punycode.encode wide == cs.drop 4 then some cs else none
      | none => none
    else some cs
  else some (wideMark ++ Punycode.encode cs)

/-- The parts between the occurrences of a character. -/
def splitOn (c : Char) : List Char → List (List Char)
  | [] => [[]]
  | d :: ds =>
    match splitOn c ds with
    | [] => [[d]]
    | part :: parts => if d = c then [] :: part :: parts else (d :: part) :: parts

/-- The ASCII form of a domain name. -/
def ascii? (name : String) : Option String := do
  let cs := (name.toList.filter (!isIgnored ·)).map mapped
  if cs.any isForbidden then none
  let labels ← (splitOn '.' cs).mapM label?
  return ".".intercalate (labels.map String.ofList)

end HostAgent.Domain
