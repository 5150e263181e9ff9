import HostAgent.Json.Value
import HostAgent.Decimal.Shortest

/-!
# Writing JSON

The compact text of a value: no blanks, members in key order, short escapes where
JSON has them and four hexadecimal digits for the other control characters.
Members that are absent are left out by `Json.record`.
-/

namespace HostAgent.Json

def hexDigit (n : Nat) : Char :=
  if n < 10 then Char.ofNat ('0'.toNat + n) else Char.ofNat ('a'.toNat + (n - 10))

/-- The escaped form of a character in a string. -/
def escape (c : Char) : List Char :=
  if c = '"' then ['\\', '"']
  else if c = '\\' then ['\\', '\\']
  else if c.toNat < 0x20 then
    if c.toNat = 0x08 then ['\\', 'b']
    else if c.toNat = 0x09 then ['\\', 't']
    else if c.toNat = 0x0A then ['\\', 'n']
    else if c.toNat = 0x0C then ['\\', 'f']
    else if c.toNat = 0x0D then ['\\', 'r']
    else ['\\', 'u', '0', '0', hexDigit (c.toNat / 16), hexDigit (c.toNat % 16)]
  else [c]

def quoted (s : String) : List Char :=
  '"' :: (s.toList.flatMap escape ++ ['"'])

/-- A JSON number always shows that it is a floating-point number: `1.0`, `1e16`. -/
def floatForm : Decimal.Form :=
  { positional := fun places => -5 < places && places ≤ 16, keepPoint := true }

def numberChars : Number → List Char
  | .int n => (toString n).toList
  | .float x =>
    if x.isNaN || x.isInfinite then "null".toList else (Decimal.render floatForm x).toList

mutual

def toChars : Json → List Char
  | .null => "null".toList
  | .bool b => (if b then "true" else "false").toList
  | .number n => numberChars n
  | .string s => quoted s
  | .array [] => ['[', ']']
  | .array (item :: rest) => '[' :: (item.toChars ++ itemsChars rest)
  | .object [] => ['\x7b', '\x7d']
  | .object ((key, value) :: rest) =>
    '\x7b' :: (quoted key ++ ':' :: (value.toChars ++ membersChars rest))

def itemsChars : List Json → List Char
  | [] => [']']
  | item :: rest => ',' :: (item.toChars ++ itemsChars rest)

def membersChars : List (String × Json) → List Char
  | [] => ['\x7d']
  | (key, value) :: rest => ',' :: (quoted key ++ ':' :: (value.toChars ++ membersChars rest))

end

/-- The compact text of a value. -/
def render (value : Json) : String := String.ofList value.toChars

/-- A member of a record that is always written. -/
def always (name : String) (value : Json) : List (String × Json) := [(name, value)]

/-- A member of a record that is written if it is there. -/
def whenSome {α : Type} (name : String) (encode : α → Json) : Option α → List (String × Json)
  | some a => [(name, encode a)]
  | none => []

/-- The object with these members. -/
def record (members : List (List (String × Json))) : Json := ofMembers members.flatten

/-- A map as an object. -/
def ofKeyMap {α : Type} (encode : α → Json) (m : KeyMap α) : Json :=
  .object (m.entries.map fun e => (e.1, encode e.2))

end HostAgent.Json
