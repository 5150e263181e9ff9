import HostAgent.Json.Numeral
import HostAgent.Text.Hex

/-!
# JSON texts as trees

`Json.read` turns any text into a tree. Where the text is no JSON the tree holds
the fault in the place where it occurs, so that a reader of the tree who goes
through it in text order meets the same first fault as one who reads the text.

A part of a text may be *kept*, and then its strings must be proper Unicode and
its numbers within range, or *skipped*, where neither matters. Both outcomes
are noted at each string and number.
-/

namespace HostAgent.Json

mutual

/-- A value as it stands in a text. -/
inductive Tree
  | null
  | bool (value : Bool)
  | number (kept : Except Fault Number)
  /-- A string; `skipped` is the fault that ends the text inside it. -/
  | string (kept : Except Fault String) (skipped : Option Fault)
  | array (items : Items)
  | object (members : Members)
  /-- A number or a word that breaks off. -/
  | torn (kept skipped : Fault)
  /-- No value starts here. -/
  | nothing (fault : Fault)

/-- The items of an array up to its bracket, or up to a fault. -/
inductive Items
  | closed
  | broken (fault : Fault)
  | cons (head : Tree) (tail : Items)

/-- The members of an object up to its brace, or up to a fault. -/
inductive Members
  | closed
  | broken (fault : Fault)
  | cons (key : Except Fault String) (value : Tree) (tail : Members)

end

instance : Inhabited Tree := ⟨.null⟩

/-- A text: the tree of its first value, and whether anything but blanks follows. -/
structure Document where
  root : Tree
  trailing : Bool

/-! ## Lexical parts -/

def isSpace (c : Char) : Bool := c == ' ' || c == '\n' || c == '\t' || c == '\r'

def skipSpace (cs : List Char) : List Char := cs.dropWhile isSpace

def isDigit (c : Char) : Bool := '0' ≤ c && c ≤ '9'

def digitValue (c : Char) : Nat := c.toNat - '0'.toNat

def utf8Length (cs : List Char) : Nat := cs.foldl (fun n c => n + c.utf8Size) 0

/-- The four hexadecimal digits after a backslash and `u`. -/
def hexFour (cs : List Char) : Except Fault (Nat × List Char) :=
  let short := if utf8Length cs < 4 then Fault.unfinished else .malformed
  match cs with
  | a :: b :: c :: d :: rest =>
    match Text.hexDigit? a, Text.hexDigit? b, Text.hexDigit? c, Text.hexDigit? d with
    | some a, some b, some c, some d => .ok (((a * 16 + b) * 16 + c) * 16 + d, rest)
    | _, _, _, _ => .error short
  | _ => .error short

/-- The second half of a surrogate pair, which must follow its first half. -/
def lowSurrogate (cs : List Char) : Except Fault (Nat × List Char) :=
  match cs with
  | [] => .error .unfinished
  | '\\' :: [] => .error .unfinished
  | '\\' :: 'u' :: rest => do
    let (n, rest) ← hexFour rest
    if 0xDC00 ≤ n ∧ n ≤ 0xDFFF then .ok (n, rest) else .error .malformed
  | _ => .error .malformed

/-- The character a single-letter escape stands for. -/
def escaped? : Char → Option Char
  | '"' => some '"'
  | '\\' => some '\\'
  | '/' => some '/'
  | 'b' => some '\x08'
  | 'f' => some '\x0c'
  | 'n' => some '\n'
  | 'r' => some '\r'
  | 't' => some '\t'
  | _ => none

/-- The characters of a string read so far, newest first, or its first fault. -/
abbrev Gathered := Except Fault (List Char)

def Gathered.push (g : Gathered) (c : Char) : Gathered := g.map (c :: ·)

def Gathered.fail (g : Gathered) (f : Fault) : Gathered := g >>= fun _ => .error f

def Gathered.text (g : Gathered) : Except Fault String :=
  g.map fun cs => String.ofList cs.reverse

/-- What follows the opening quote: the string, and the text after its closing quote. -/
def readString : Nat → Gathered → List Char → Tree × Option (List Char)
  | 0, g, _ => (.string (g.fail .unfinished).text (some .unfinished), none)
  | _, g, [] => (.string (g.fail .unfinished).text (some .unfinished), none)
  | _, g, '"' :: rest => (.string g.text none, some rest)
  | _, g, '\\' :: [] => (.string (g.fail .unfinished).text (some .unfinished), none)
  | fuel + 1, g, '\\' :: 'u' :: rest =>
    match hexFour rest with
    | .error f => (.string (g.fail f).text (some f), none)
    | .ok (n, rest) =>
      if 0xDC00 ≤ n ∧ n ≤ 0xDFFF then readString fuel (g.fail .malformed) rest
      else if 0xD800 ≤ n ∧ n ≤ 0xDBFF then
        match lowSurrogate rest with
        | .error f => readString fuel (g.fail f) rest
        | .ok (m, after) =>
          let c := Char.ofNat (0x10000 + (n - 0xD800) * 0x400 + (m - 0xDC00))
          readString fuel (g.push c) after
      else readString fuel (g.push (Char.ofNat n)) rest
  | fuel + 1, g, '\\' :: c :: rest =>
    match escaped? c with
    | some c => readString fuel (g.push c) rest
    | none => (.string (g.fail .malformed).text (some .malformed), none)
  | fuel + 1, g, c :: rest =>
    if c.toNat < 0x20 then (.string (g.fail .malformed).text (some .malformed), none)
    else readString fuel (g.push c) rest

/-- A numeral breaks off: kept, the end of the text is told from a wrong character. -/
def tornNumeral (rest : List Char) : Tree × Option (List Char) :=
  (.torn (if rest.isEmpty then .unfinished else .malformed) .malformed, none)

/-- The exponent of a numeral, if there is one. -/
def readExponent (n : Numeral) (cs : List Char) : Tree × Option (List Char) :=
  let signed (down : Bool) (rest : List Char) : Tree × Option (List Char) :=
    match rest.takeWhile isDigit with
    | [] => tornNumeral rest
    | ds =>
      let n := { n with exponent := some (down, ds.map digitValue) }
      (.number n.value, some (rest.dropWhile isDigit))
  match cs with
  | e :: rest =>
    if e == 'e' || e == 'E' then
      match rest with
      | '+' :: rest => signed false rest
      | '-' :: rest => signed true rest
      | rest => signed false rest
    else (.number n.value, some cs)
  | [] => (.number n.value, some cs)

/-- The fraction and the exponent of a numeral, if there are any. -/
def readFraction (n : Numeral) (cs : List Char) : Tree × Option (List Char) :=
  match cs with
  | '.' :: rest =>
    match rest.takeWhile isDigit with
    | [] => tornNumeral rest
    | ds =>
      readExponent { n with fraction := some (ds.map digitValue) } (rest.dropWhile isDigit)
  | _ => readExponent n cs

/-- A numeral; of several digits the first is not zero. -/
def readNumber (cs : List Char) : Tree × Option (List Char) :=
  let (negative, cs) :=
    match cs with
    | '-' :: rest => (true, rest)
    | _ => (false, cs)
  match cs.takeWhile isDigit with
  | [] => tornNumeral cs
  | '0' :: _ :: _ => (.torn .malformed .malformed, none)
  | ds => readFraction ⟨negative, ds.map digitValue, none, none⟩ (cs.dropWhile isDigit)

/-- The rest of a word such as `null`, of which the first letter is read. -/
def readWord (value : Tree) : List Char → List Char → Tree × Option (List Char)
  | [], cs => (value, some cs)
  | _ :: _, [] => (.torn .unfinished .unfinished, none)
  | w :: ws, c :: cs => if w = c then readWord value ws cs else (.torn .malformed .malformed, none)

/-! ## Values -/

mutual

/-- The value at the start of the text and the text after it, which is absent when the value
breaks off. The fuel is the length of the text. -/
def readValue (fuel : Nat) (cs : List Char) : Tree × Option (List Char) :=
  match fuel with
  | 0 => (.nothing .unfinished, none)
  | fuel + 1 =>
    match skipSpace cs with
    | [] => (.nothing .unfinished, none)
    | '"' :: rest => readString (rest.length + 1) (.ok []) rest
    | 'n' :: rest => readWord .null ['u', 'l', 'l'] rest
    | 't' :: rest => readWord (.bool true) ['r', 'u', 'e'] rest
    | 'f' :: rest => readWord (.bool false) ['a', 'l', 's', 'e'] rest
    | '[' :: rest =>
      match skipSpace rest with
      | [] => (.array (.broken .unfinished), none)
      | ']' :: rest => (.array .closed, some rest)
      | _ =>
        let (items, after) := readItems fuel rest
        (.array items, after)
    | '{' :: rest =>
      match skipSpace rest with
      | '}' :: rest => (.object .closed, some rest)
      | _ =>
        let (members, after) := readMembers fuel rest
        (.object members, after)
    | c :: rest =>
      if c == '-' || isDigit c then readNumber (c :: rest) else (.nothing .malformed, none)

/-- An item, and the items after it up to the closing bracket. -/
def readItems (fuel : Nat) (cs : List Char) : Items × Option (List Char) :=
  match fuel with
  | 0 => (.broken .unfinished, none)
  | fuel + 1 =>
    match readValue fuel cs with
    | (head, none) => (.cons head (.broken .malformed), none)
    | (head, some rest) =>
      match skipSpace rest with
      | [] => (.cons head (.broken .unfinished), none)
      | ']' :: rest => (.cons head .closed, some rest)
      | ',' :: rest =>
        let (tail, after) := readItems fuel rest
        (.cons head tail, after)
      | _ => (.cons head (.broken .malformed), none)

/-- A member, and the members after it up to the closing brace. -/
def readMembers (fuel : Nat) (cs : List Char) : Members × Option (List Char) :=
  match fuel with
  | 0 => (.broken .unfinished, none)
  | fuel + 1 =>
    match skipSpace cs with
    | [] => (.broken .unfinished, none)
    | '"' :: rest =>
      match readString (rest.length + 1) (.ok []) rest with
      | (.string key none, some rest) =>
        match skipSpace rest with
        | [] => (.cons key (.nothing .unfinished) (.broken .unfinished), none)
        | ':' :: rest =>
          match readValue fuel rest with
          | (value, none) => (.cons key value (.broken .malformed), none)
          | (value, some rest) =>
            match skipSpace rest with
            | [] => (.cons key value (.broken .unfinished), none)
            | '}' :: rest => (.cons key value .closed, some rest)
            | ',' :: rest =>
              let (tail, after) := readMembers fuel rest
              (.cons key value tail, after)
            | _ => (.cons key value (.broken .malformed), none)
        | _ => (.cons key (.nothing .malformed) (.broken .malformed), none)
      | (.string key skipped, _) =>
        let f := skipped.getD .unfinished
        (.cons key (.torn f f) (.broken f), none)
      | _ => (.broken .malformed, none)
    | _ => (.broken .malformed, none)

end

/-- The tree of a text. -/
def read (text : String) : Document :=
  let cs := text.toList
  match readValue (2 * cs.length + 2) cs with
  | (root, none) => ⟨root, false⟩
  | (root, some rest) => ⟨root, !(skipSpace rest).isEmpty⟩

/-! ## Trees of values -/

mutual

/-- A value as a tree, without faults. -/
def Tree.ofJson : Json → Tree
  | .null => .null
  | .bool b => .bool b
  | .number n => .number (.ok n)
  | .string s => .string (.ok s) none
  | .array items => .array (Items.ofList items)
  | .object members => .object (Members.ofList members)

def Items.ofList : List Json → Items
  | [] => .closed
  | item :: rest => .cons (Tree.ofJson item) (Items.ofList rest)

def Members.ofList : List (String × Json) → Members
  | [] => .closed
  | (key, value) :: rest => .cons (.ok key) (Tree.ofJson value) (Members.ofList rest)

end

/-! ## Skipping and keeping -/

mutual

/-- Pass over a value: only a place where the text is no JSON is a fault. -/
def Tree.skip : Tree → Except Fault Unit
  | .null | .bool _ | .number _ | .string _ none => .ok ()
  | .string _ (some f) => .error f
  | .torn _ f => .error f
  | .nothing f => .error f
  | .array items => items.skip
  | .object members => members.skip

def Items.skip : Items → Except Fault Unit
  | .closed => .ok ()
  | .broken f => .error f
  | .cons head tail => do head.skip; tail.skip

def Members.skip : Members → Except Fault Unit
  | .closed => .ok ()
  | .broken f => .error f
  | .cons _ value tail => do value.skip; tail.skip

end

mutual

/-- The value of a tree. At most `depth` containers may stand in each other; of members with one
key the last counts. -/
def Tree.keep (depth : Nat) : Tree → Except Fault Json
  | .null => .ok .null
  | .bool b => .ok (.bool b)
  | .number kept => kept.map .number
  | .string kept _ => kept.map .string
  | .torn f _ => .error f
  | .nothing f => .error f
  | .array items =>
    match depth with
    | 0 => .error .malformed
    | depth + 1 => do return .array (← items.keep depth)
  | .object members =>
    match depth with
    | 0 => .error .malformed
    | depth + 1 => do return .object (← members.keep depth [])

def Items.keep (depth : Nat) : Items → Except Fault (List Json)
  | .closed => .ok []
  | .broken f => .error f
  | .cons head tail => do
    let head ← head.keep depth
    return head :: (← tail.keep depth)

def Members.keep (depth : Nat) (before : List (String × Json)) :
    Members → Except Fault (List (String × Json))
  | .closed => .ok before
  | .broken f => .error f
  | .cons key value tail => do
    let key ← key
    let value ← value.keep depth
    tail.keep depth (Entries.insert key value before)

end

/-- Containers may stand in each other to this depth. -/
def maxDepth : Nat := 127

/-- The value of a JSON text. -/
def parse (text : String) : Except Fault Json := do
  let doc := read text
  let value ← doc.root.keep maxDepth
  if doc.trailing then .error .malformed else .ok value

end HostAgent.Json
