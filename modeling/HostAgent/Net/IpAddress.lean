import HostAgent.Text.Blank

/-!
# Internet addresses

Addresses of both families, their strict text form, and the canonical text: no
leading zeros, lower case, and the first of the longest runs of at least two
zero groups shortened to `::`.
-/

namespace HostAgent

/-- An address: four octets, or eight groups of sixteen bits. -/
inductive IpAddress
  | v4 (octets : List Nat)
  | v6 (groups : List Nat)
deriving DecidableEq, Repr

namespace IpAddress

/-! ## Reading -/

/-- The value of a digit in a base of at most sixteen. -/
def digit? (base : Nat) (c : Char) : Option Nat :=
  let value :=
    if '0' ≤ c ∧ c ≤ '9' then c.toNat - '0'.toNat
    else if 'a' ≤ c ∧ c ≤ 'f' then c.toNat - 'a'.toNat + 10
    else if 'A' ≤ c ∧ c ≤ 'F' then c.toNat - 'A'.toNat + 10
    else base
  if value < base then some value else none

/-- The number that digits make up. -/
def ofDigits (base : Nat) (ds : List Nat) : Nat := ds.foldl (fun acc d => base * acc + d) 0

/-- A number of one to `most` digits, and no more digits after it. -/
def number? (base most : Nat) (zeros : Bool) (cs : List Char) : Option (Nat × List Char) :=
  let ds := cs.takeWhile fun c => (digit? base c).isSome
  if ds = [] ∨ most < ds.length ∨ (!zeros ∧ ds.head? = some '0' ∧ 1 < ds.length) then none
  else some (ofDigits base (ds.filterMap (digit? base)), cs.drop ds.length)

/-- A separator, unless at the first place. -/
def separator? (c : Char) (index : Nat) (cs : List Char) : Option (List Char) :=
  if index = 0 then some cs else Text.after? [c] cs

/-- Four octets separated by points; none is written with a leading zero. -/
def octets? (cs : List Char) : Option (List Nat × List Char) := do
  let octet (index : Nat) (cs : List Char) : Option (Nat × List Char) := do
    let (n, cs) ← number? 10 3 false (← separator? '.' index cs)
    if n < 256 then some (n, cs) else none
  let (a, cs) ← octet 0 cs
  let (b, cs) ← octet 1 cs
  let (c, cs) ← octet 2 cs
  let (d, cs) ← octet 3 cs
  return ([a, b, c, d], cs)

/-- Groups of up to four hexadecimal digits, at most `room` of them; the last two may be written
as four octets. The flag tells whether they were. -/
def groups (index : Nat) : Nat → List Char → List Nat × Bool × List Char
  | 0, cs => ([], false, cs)
  | room + 1, cs =>
    let embedded := if 0 < room then (separator? ':' index cs).bind octets? else none
    match embedded with
    | some ([a, b, c, d], cs) => ([256 * a + b, 256 * c + d], true, cs)
    | _ =>
      match (separator? ':' index cs).bind (number? 16 4 true) with
      | none => ([], false, cs)
      | some (n, cs) =>
        let (rest, dotted, cs) := groups (index + 1) room cs
        (n :: rest, dotted, cs)

/-- Eight groups; one run of groups may be left out at `::`. -/
def eightGroups? (cs : List Char) : Option (List Nat × List Char) :=
  match groups 0 8 cs with
  | (head, dotted, cs) =>
    if head.length = 8 then some (head, cs)
    else if dotted then none
    else do
      let cs ← Text.after? [':', ':'] cs
      let (tail, _, cs) := groups 0 (7 - head.length) cs
      some (head ++ List.replicate (8 - head.length - tail.length) 0 ++ tail, cs)

/-- The address that a text is. -/
def ofText? (text : String) : Option IpAddress :=
  let all (a : IpAddress) (rest : List Char) : Option IpAddress :=
    if rest.isEmpty then some a else none
  match octets? text.toList with
  | some (octets, rest) => all (.v4 octets) rest
  | none =>
    match eightGroups? text.toList with
    | some (groups, rest) => all (.v6 groups) rest
    | none => none

/-! ## Writing -/

def hexText (n : Nat) : String := String.ofList (Nat.toDigits 16 n)

def octetsText (octets : List Nat) : String := ".".intercalate (octets.map toString)

def groupsText (groups : List Nat) : String := ":".intercalate (groups.map hexText)

/-- The start and the length of the first longest run of zeros. -/
def longestZeros (index : Nat) : List Nat → Nat × Nat
  | [] => (index, 0)
  | g :: gs =>
    let here := ((g :: gs).takeWhile (· == 0)).length
    let later := longestZeros (index + 1) gs
    if later.2 ≤ here then (index, here) else later

/-- Groups with the first longest run of two or more zeros left out. -/
def shortened (groups : List Nat) : String :=
  let (start, count) := longestZeros 0 groups
  if 1 < count then
    groupsText (groups.take start) ++ "::" ++ groupsText (groups.drop (start + count))
  else groupsText groups

/-- The canonical text. An address of the other family inside the groups is written as such. -/
def render : IpAddress → String
  | .v4 octets => octetsText octets
  | .v6 [0, 0, 0, 0, 0, 65535, a, b] =>
    "::ffff:" ++ octetsText [a / 256, a % 256, b / 256, b % 256]
  | .v6 groups => shortened groups

end IpAddress

end HostAgent
