import HostAgent.Decimal.Power
import HostAgent.Json.Decode
import HostAgent.Settings.Ini
import HostAgent.Settings.Toml.Document
import HostAgent.Settings.Yaml.Document

/-!
# Where settings come from

Settings are read from a file and from the environment, which wins. The form of a
file follows from the end of its name. Names of settings have no case. A key with
dots or brackets belongs to the setting that it starts with and makes it a table or
a list, whatever else is given.

## Main results

* `SettingTable.get?_above`: a value of the first table hides that of the second.
* `Environment.key?_eq_some_iff`: which variables are settings.
-/

namespace HostAgent

/-! ## Files -/

/-- The forms of a file. -/
inductive SettingFormat
  | toml
  | json
  | yaml
  | ini
deriving DecidableEq, Repr

namespace SettingFormat

/-- The ends of names, and the forms they stand for. -/
def extensions : List (String × SettingFormat) :=
  [("toml", .toml), ("json", .json), ("yaml", .yaml), ("yml", .yaml), ("ini", .ini)]

/-- The form of a file of this name. A dot at the start of a name does not end it. -/
def ofName? (name : String) : Option SettingFormat :=
  let file := (name.toList.reverse.takeWhile (· != '/')).reverse
  match Text.cutAt '.' file.reverse with
  | (extension, some (_ :: _)) => Entries.get? (String.ofList extension.reverse) extensions
  | _ => none

end SettingFormat

/-- The value of a setting in a file of JSON. -/
def SettingValue.ofJson : Json → SettingValue
  | .null => .null
  | .bool b => .bool b
  | .number (.int n) => if n < (twoPow 63 : Int) then .int n else .float (Json.Decoder.nearest n)
  | .number (.float x) => .float x
  | .string s => .text s
  | .array _ | .object _ => .composite

namespace SettingTable

/-- The names of settings have no case. The Kelvin sign is the only letter outside of ASCII whose
lower case is one of ASCII. -/
def lowerName (s : String) : String :=
  String.ofList (s.toList.map fun c => if c = '\u212a' then 'k' else c.toLower)

/-- A part of a path: characters of names and spaces. -/
def isNameChar (c : Char) : Bool := c.isAlphanum || c == '_' || c == '-' || c == ' '

/-- Is this what may follow a name in a path: further names after dots, and numbers in brackets?
The fuel bounds their number. -/
def isPathTail : Nat → List Char → Bool
  | _, [] => true
  | 0, _ => false
  | fuel + 1, '.' :: cs =>
    (cs.head?.any isNameChar) && isPathTail fuel (cs.dropWhile isNameChar)
  | fuel + 1, '[' :: cs =>
    let digits := match cs with
      | '-' :: ds => ds
      | ds => ds
    match digits.dropWhile Char.isDigit with
    | ']' :: rest => digits.head?.any Char.isDigit && isPathTail fuel rest
    | _ => false
  | _, _ => false

/-- A key of a source, and its value: the setting that it belongs to, and what it makes of it. -/
def ofKey (key : String) (v : SettingValue) : String × SettingValue :=
  let key := lowerName key
  let rest := key.toList.dropWhile isNameChar
  if rest.isEmpty || !isPathTail key.length rest then (key, v)
  else (String.ofList (key.toList.takeWhile isNameChar), .composite)

/-- The settings of a source by their keys. -/
def ofKeys (t : SettingTable) : SettingTable := .ofList (t.entries.map fun e => ofKey e.1 e.2)

/-- The first table on top of the second. -/
def above (top bottom : SettingTable) : SettingTable :=
  top.entries.foldr (fun e t => t.insert e.1 e.2) bottom

theorem get?_above (top bottom : SettingTable) (key : String) :
    (top.above bottom).get? key = (top.get? key).or (bottom.get? key) := by
  obtain ⟨es, hs⟩ := top
  simp only [above, KeyMap.get?]
  clear hs
  induction es with
  | nil => simp [Entries.get?]
  | cons e es ih =>
    obtain ⟨k, v⟩ := e
    simp only [List.foldr_cons, KeyMap.insert, Entries.get?_insert, Entries.get?]
    split
    · simp
    · exact ih

/-- The table in a text of some form. -/
def read? (format : SettingFormat) (text : String) : Option SettingTable :=
  match format with
  | .toml => Toml.settings? text
  | .yaml => Yaml.settings? text
  | .ini => Ini.settings? text
  | .json =>
    match Json.parse text with
    | .ok (.object members) =>
      some (.ofList (members.map fun m => (m.1, SettingValue.ofJson m.2)))
    | _ => none

/-- A mark of byte order at the start of a file does not count. -/
def withoutMark (text : String) : String :=
  match text.toList with
  | c :: cs => if c = '\ufeff' then String.ofList cs else text
  | [] => text

/-- The table in a file of a name. If there is none, the name may lack its end. -/
def ofFile? (file? : String → Option String) (name : String) : Option SettingTable :=
  let read (text : String) (format : SettingFormat) : Option SettingTable :=
    (read? format (withoutMark text)).map ofKeys
  match file? name with
  | some text => do read text (← SettingFormat.ofName? name)
  | none => do
    let (text, format) ← SettingFormat.extensions.findSome? fun e =>
      (file? (name ++ "." ++ e.1)).map fun text => (text, e.2)
    read text format

end SettingTable

/-! ## The environment -/

/-- The variables of a process. -/
abbrev Environment : Type := List (String × String)

namespace Environment

/-- The value of a variable. -/
def get? (env : Environment) (name : String) : Option String := Entries.get? name env

/-- The setting that a variable is for: what follows the start of its name and an underscore. -/
def key? (start name : String) : Option String :=
  Text.stripStart? (SettingTable.lowerName start ++ "_") (SettingTable.lowerName name)

theorem key?_eq_some_iff {start name key : String} :
    key? start name = some key ↔
      SettingTable.lowerName name = SettingTable.lowerName start ++ "_" ++ key := by
  simp only [key?, Text.stripStart?, Option.map_eq_some_iff, Text.after?_eq_some_iff]
  constructor
  · rintro ⟨rest, h, rfl⟩
    apply String.toList_inj.1
    simpa using h
  · intro h
    exact ⟨key.toList, by rw [h]; simp, by simp⟩

/-- The settings of an environment. -/
def settings (start : String) (env : Environment) : SettingTable :=
  SettingTable.ofKeys (.ofList (env.filterMap fun e =>
    (key? start e.1).map fun key => (key, SettingValue.ofText e.2)))

end Environment

end HostAgent
