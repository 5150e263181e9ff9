import HostAgent.Settings.Yaml.Flow

/-!
# YAML documents

A document of settings is a table: keys at the start of lines, each with a colon
and a value. The lines of a value that goes on are indented more than the key;
only the items of a list may be below it. A file holds one document, or none, which
is an empty table.
-/

namespace HostAgent.Yaml

/-! ## Lines -/

structure Line where
  indent : Nat
  /-- The characters after the indentation. -/
  chars : List Char

def Line.ofChars (cs : List Char) : Line :=
  let cs := if cs.getLast? = some '\r' then cs.dropLast else cs
  ⟨(cs.takeWhile (· == ' ')).length, cs.dropWhile (· == ' ')⟩

namespace Line

/-- Nothing but blanks and perhaps a comment. -/
def isIdle (l : Line) : Bool :=
  match dropBlanks l.chars with
  | [] => true
  | c :: _ => c == '#'

/-- Three marks at the start of a line, and a blank if anything follows. -/
def isMarker (mark : Char) (l : Line) : Bool :=
  l.indent == 0 && l.chars.take 3 == [mark, mark, mark] && (l.chars.drop 3).head?.all isBlank

/-- Does a line start an item of a list? -/
def isItem (l : Line) : Bool := l.chars.head? == some '-' && (l.chars.drop 1).head?.all isBlank

end Line

/-- The lines of a value after the first, joined with breaks. -/
def joined (first : List Char) (more : List Line) : List Char :=
  first ++ more.flatMap fun l => '\n' :: (List.replicate l.indent ' ' ++ l.chars)

/-! ## Values -/

/-- A key at the start of a line, and what follows its colon. -/
def key? (cs : List Char) : Option (String × List Char) := do
  let colon (cs : List Char) : Option (List Char) :=
    match dropBlanks cs with
    | ':' :: rest => if rest.head?.all isBlank then some rest else none
    | _ => none
  match cs with
  | [] => none
  | c :: _ =>
    if c = '"' ∨ c = '\'' then
      let (key, rest) ← quoted? cs
      return (key, ← colon rest)
    else if isIndicator c then none
    else
      let (key, rest) := plainKey cs
      return (String.ofList (trim key), ← colon rest)
where
  plainKey : List Char → List Char × List Char
    | [] => ([], [])
    | ':' :: [] => ([], [':'])
    | ':' :: c :: rest =>
      if isBlank c then ([], ':' :: c :: rest)
      else
        let (key, rest) := plainKey (c :: rest)
        (':' :: key, rest)
    | c :: rest =>
      let (key, rest) := plainKey rest
      (c :: key, rest)

/-- The part of a line before a comment, and whether there is one. -/
def beforeComment : List Char → List Char × Bool
  | [] => ([], false)
  | c :: '#' :: rest =>
    if isBlank c then ([], true)
    else
      let (text, isCut) := beforeComment ('#' :: rest)
      (c :: text, isCut)
  | c :: rest =>
    let (text, isCut) := beforeComment rest
    (c :: text, isCut)

/-- A plain text over several lines. After a comment it cannot go on. -/
def plainLines : List Char → List Line → Option (List Char)
  | first, [] => some (beforeComment first).1
  | first, l :: more =>
    match beforeComment first with
    | (text, true) => if (l :: more).all (·.isIdle) then some text else none
    | (text, false) =>
      if (dropBlanks l.chars).head? = some '#' then
        if more.all (·.isIdle) then some text else none
      else (plainLines l.chars more).map fun rest => text ++ '\n' :: rest

/-- A text that keeps its lines, after its mark. -/
def literal? (isFolded : Bool) (header : List Char) (more : List Line) : Option String :=
  let head := (beforeComment (' ' :: header)).1
  let marks := trim head
  let strip := marks.contains '-'
  let keep := marks.contains '+'
  let indent := ((more.filter (!·.chars.isEmpty)).head?.map (·.indent)).getD 0
  let text (l : Line) : List Char := List.replicate (l.indent - indent) ' ' ++ l.chars
  let lines := more.map text
  let body := (lines.reverse.dropWhile (·.isEmpty)).reverse
  let tail := lines.length - body.length
  if marks.all fun c => c == '-' || c == '+' then
    let breaks := if body.isEmpty then (if keep then tail else 0)
      else if strip then 0 else if keep then tail + 1 else 1
    let glue := ['\n'].intercalate body
    let glue := if isFolded then foldGaps glue.length glue else glue
    some (String.ofList (glue ++ List.replicate breaks '\n'))
  else none

/-- Nothing but gaps and comments. -/
def isRest (cs : List Char) : Bool := (dropGaps cs.length cs).isEmpty

/-- The value of a key from what follows the colon and the lines that belong to it. -/
def value? (first : List Char) (more : List Line) : Option SettingValue :=
  match dropBlanks first with
  | '|' :: header => (literal? false header more).map .text
  | '>' :: header => (literal? true header more).map .text
  | cs =>
    if cs.isEmpty || cs.head? = some '#' then
      match more.dropWhile (·.isIdle) with
      | [] => some .null
      | l :: more =>
        if l.isItem || (key? l.chars).isSome then some .composite else single l.chars more
    else single cs more
where
  single (cs : List Char) (more : List Line) : Option SettingValue :=
    match cs with
    | [] => none
    | c :: rest =>
      if c = '"' ∨ c = '\'' then do
        let (s, rest) ← quoted? (joined cs more)
        if isRest rest then some (.text s) else none
      else if c = '[' ∨ c = '\x7b' then do
        let all := joined cs more
        let (v, rest) ← flow (all.length + 1) all
        if isRest rest then some v.setting else none
      else if isIndicator c || ((c == '-' || c == '?') && rest.head?.all isBlank) then none
      else do
        let text ← plainLines cs more
        if (key? (foldGaps text.length (trim text))).isSome then none
        plain? (plainText text)

/-! ## Documents -/

/-- The keys and values of lines at an indentation. The fuel is the number of lines. -/
def entries (indent : Nat) : Nat → SettingTable → List Line → Option SettingTable
  | 0, _, _ => none
  | fuel + 1, es, lines =>
    match lines.dropWhile (·.isIdle) with
    | [] => some es
    | l :: more => do
      if l.indent ≠ indent then none
      let (key, first) ← key? l.chars
      if es.contains key then none
      let isListBelow := (dropBlanks first).isEmpty || (dropBlanks first).head? = some '#'
      let belongs (m : Line) : Bool :=
        m.chars.isEmpty || indent < m.indent || m.chars.head? == some '#' ||
          (isListBelow && m.indent == indent && m.isItem)
      let v ← value? first (more.takeWhile belongs)
      entries indent fuel (es.insert key v) (more.dropWhile belongs)

/-- The table of the lines of a document. -/
def table? (lines : List Line) : Option SettingTable :=
  match lines.dropWhile (·.isIdle) with
  | [] => none
  | l :: more =>
    if l.chars.head? = some '\x7b' then do
      let all := joined l.chars more
      match ← flow (all.length + 1) all with
      | (.table es, rest) => if isRest rest then some es else none
      | _ => none
    else entries l.indent (lines.length + 1) ∅ (l :: more)

/-- The settings of a file. -/
def settings? (document : String) : Option SettingTable :=
  let lines := (document.toList.splitOnP (· == '\n')).map Line.ofChars
  let isPreamble (l : Line) : Bool := l.isIdle || (l.indent == 0 && l.chars.head? == some '%')
  match lines.dropWhile isPreamble with
  | [] => some ∅
  | l :: more =>
    let isOpened := l.isMarker '-'
    let body := if isOpened then more else l :: more
    let own := body.takeWhile fun l => !(l.isMarker '-' || l.isMarker '.')
    match (body.drop own.length).dropWhile fun l => l.isIdle || l.isMarker '.' with
    | [] => table? own
    | _ => none

end HostAgent.Yaml
