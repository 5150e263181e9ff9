import HostAgent.Settings.Yaml.Scalar

/-!
# YAML values in brackets and braces

Lists in brackets and tables in braces may go over several lines, and comments may
stand between their parts. What lies inside a list does not matter to settings,
but it has to be well-formed.
-/

namespace HostAgent.Yaml

/-- A value with the keys of a table. -/
inductive FlowValue
  | single (value : SettingValue)
  | list
  | table (entries : SettingTable)

def FlowValue.setting : FlowValue → SettingValue
  | .single v => v
  | .list | .table _ => .composite

/-- Skip blanks, breaks and comments. -/
def dropGaps : Nat → List Char → List Char
  | 0, cs => cs
  | fuel + 1, cs =>
    match cs with
    | c :: rest =>
      if isGap c then dropGaps fuel rest
      else if c = '#' then dropGaps fuel (rest.dropWhile (· != '\n'))
      else c :: rest
    | [] => []

def isFlowMark (c : Char) : Bool :=
  c == ',' || c == '[' || c == ']' || c == '\x7b' || c == '\x7d'

/-- Does a plain text end here? -/
def isPlainEnd : List Char → Bool
  | [] => true
  | ':' :: [] => true
  | ':' :: c :: _ => isGap c || isFlowMark c
  | c :: '#' :: _ => isGap c || isFlowMark c
  | c :: _ => isFlowMark c

/-- The characters of a plain text, and what follows. -/
def plainChars : List Char → List Char × List Char
  | [] => ([], [])
  | c :: cs =>
    if isPlainEnd (c :: cs) then ([], c :: cs)
    else
      let (text, rest) := plainChars cs
      (c :: text, rest)

/-- A plain text with its gaps folded. The fuel is its length. -/
def foldGaps : Nat → List Char → List Char
  | 0, _ => []
  | fuel + 1, cs =>
    match cs with
    | [] => []
    | c :: rest =>
      if isGap c then
        folded ((c :: rest).takeWhile isGap) ++ foldGaps fuel ((c :: rest).dropWhile isGap)
      else c :: foldGaps fuel rest

def plainText (cs : List Char) : String := String.ofList (foldGaps cs.length (trim cs))

/-- Characters that a plain text cannot start with. -/
def isIndicator (c : Char) : Bool := "&*!|>'\"%@\x60#,[]\x7b\x7d".toList.contains c

/-- A single value or a key: its text, and whether it is in quotation marks. -/
def atom? (cs : List Char) : Option ((String × Bool) × List Char) :=
  match cs with
  | [] => none
  | c :: _ =>
    if c = '"' ∨ c = '\'' then (quoted? cs).map fun (s, rest) => ((s, true), rest)
    else if isIndicator c then none
    else
      let (text, rest) := plainChars cs
      some ((plainText text, false), rest)

mutual

/-- A value, and what follows. The fuel bounds how deep values lie, and how many there are. -/
def flow : Nat → List Char → Option (FlowValue × List Char)
  | 0, _ => none
  | fuel + 1, cs =>
    match cs with
    | '[' :: rest => (flowItems fuel rest).map fun rest => (.list, rest)
    | '\x7b' :: rest => (flowMembers fuel ∅ rest).map fun (es, rest) => (.table es, rest)
    | cs => do
      let ((s, isQuoted), rest) ← atom? cs
      let v ← if isQuoted then some (.text s) else plain? s
      return (.single v, rest)

/-- The characters after a list that was opened. -/
def flowItems : Nat → List Char → Option (List Char)
  | 0, _ => none
  | fuel + 1, cs =>
    match dropGaps cs.length cs with
    | ']' :: rest => some rest
    | cs => do
      let (_, cs) ← flow fuel cs
      let cs ← match dropGaps cs.length cs with
        | ':' :: rest => (flow fuel (dropGaps rest.length rest)).map (·.2)
        | cs => some cs
      match dropGaps cs.length cs with
      | ',' :: rest => flowItems fuel rest
      | ']' :: rest => some rest
      | _ => none

/-- The keys of a table that was opened, and what follows. -/
def flowMembers : Nat → SettingTable → List Char → Option (SettingTable × List Char)
  | 0, _, _ => none
  | fuel + 1, es, cs =>
    match dropGaps cs.length cs with
    | '\x7d' :: rest => some (es, rest)
    | cs => do
      let ((key, _), cs) ← atom? cs
      if es.contains key then none
      let (v, cs) ← match dropGaps cs.length cs with
        | ':' :: rest =>
          match dropGaps rest.length rest with
          | ',' :: _ | '\x7d' :: _ => some (.single .null, rest)
          | rest => flow fuel rest
        | cs => some (.single .null, cs)
      let es := es.insert key v.setting
      match dropGaps cs.length cs with
      | ',' :: rest => flowMembers fuel es rest
      | '\x7d' :: rest => some (es, rest)
      | _ => none

end

end HostAgent.Yaml
