import HostAgent.Text.Hex

/-!
# TOML: blanks, comments and texts

The smallest parts of a TOML document. Every reader takes the characters that
are left and gives those that are left after it, or nothing if there is no such
part.
-/

namespace HostAgent.Toml

def isBlank (c : Char) : Bool := c == ' ' || c == '\t'

def skipBlanks (cs : List Char) : List Char := cs.dropWhile isBlank

/-- A character that may stand in a text or a comment. -/
def isTextChar (c : Char) : Bool := c == '\t' || (0x20 ≤ c.toNat && c.toNat ≠ 0x7F)

/-- What follows the end of a line: blanks and perhaps a comment, and a line break unless the
document ends. The result tells whether there was a line break. -/
def lineEnd (cs : List Char) : Option (Bool × List Char) :=
  let cs := skipBlanks cs
  let rest := match cs with
    | '#' :: comment => comment.dropWhile isTextChar
    | cs => cs
  match rest with
  | [] => some (false, [])
  | '\n' :: rest => some (true, rest)
  | '\r' :: '\n' :: rest => some (true, rest)
  | _ => none

/-- Skip blanks, comments and line breaks. -/
def skipLines : Nat → List Char → List Char
  | 0, cs => cs
  | fuel + 1, cs =>
    match lineEnd cs with
    | some (true, rest) => skipLines fuel rest
    | some (false, _) => []
    | none => skipBlanks cs

/-! ## Texts -/

/-- One more character in front of a text. -/
def cons (c : Char) (rest : Option (List Char × List Char)) : Option (List Char × List Char) :=
  rest.map fun (text, cs) => (c :: text, cs)

/-- The character after a backslash that needs no digits. -/
def shortEscape? : Char → Option Char
  | 'b' => some '\x08'
  | 't' => some '\t'
  | 'n' => some '\n'
  | 'f' => some '\x0c'
  | 'r' => some '\r'
  | '"' => some '"'
  | '\\' => some '\\'
  | _ => none

/-- A text after its opening quotation mark. -/
def basic : List Char → Option (List Char × List Char)
  | [] => none
  | '"' :: rest => some ([], rest)
  | '\\' :: 'u' :: a :: b :: c :: d :: rest => do
    cons (← Text.codePoint? [a, b, c, d]) (basic rest)
  | '\\' :: 'U' :: a :: b :: c :: d :: e :: f :: g :: h :: rest => do
    cons (← Text.codePoint? [a, b, c, d, e, f, g, h]) (basic rest)
  | '\\' :: c :: rest => do cons (← shortEscape? c) (basic rest)
  | c :: rest => if isTextChar c then cons c (basic rest) else none

/-- A literal text after its opening quotation mark. -/
def literal : List Char → Option (List Char × List Char)
  | [] => none
  | c :: rest =>
    if c = '\'' then some ([], rest)
    else if isTextChar c then cons c (literal rest)
    else none

/-! ## Texts of many lines -/

/-- The end of a text of many lines: three marks. One or two more belong to the text. -/
def closing? (mark : Char) (cs : List Char) : Option (List Char × List Char) :=
  let run := (cs.takeWhile (· == mark)).length
  if 3 ≤ run then
    let extra := min (run - 3) 2
    some (List.replicate extra mark, cs.drop (extra + 3))
  else none

/-- Where a text of many lines is after a backslash at the end of a line. -/
inductive Joining
  | no
  /-- Only blanks may follow until the line ends. -/
  | line
  /-- Blanks and line breaks are dropped. -/
  | blank
deriving DecidableEq

/-- A text of many lines after its opening marks. -/
def basicLines : Joining → List Char → Option (List Char × List Char)
  | _, [] => none
  | j, c :: cs =>
    match j with
    | .line =>
      if isBlank c || c == '\r' then basicLines .line cs
      else if c = '\n' then basicLines .blank cs
      else none
    | _ =>
      if j = .blank && (isBlank c || c == '\r' || c == '\n') then basicLines .blank cs
      else
        match closing? '"' (c :: cs) with
        | some part => some part
        | none =>
          match c, cs with
          | '\\', 'u' :: a :: b :: c :: d :: rest => do
            cons (← Text.codePoint? [a, b, c, d]) (basicLines .no rest)
          | '\\', 'U' :: a :: b :: c :: d :: e :: f :: g :: h :: rest => do
            cons (← Text.codePoint? [a, b, c, d, e, f, g, h]) (basicLines .no rest)
          | '\\', d :: rest =>
            match shortEscape? d with
            | some e => cons e (basicLines .no rest)
            | none =>
              if isBlank d || d == '\r' then basicLines .line rest
              else if d = '\n' then basicLines .blank rest
              else none
          | '\r', '\n' :: rest => cons '\n' (basicLines .no rest)
          | c, rest => if isTextChar c || c == '\n' then cons c (basicLines .no rest) else none

/-- A literal text of many lines after its opening marks. -/
def literalLines : List Char → Option (List Char × List Char)
  | [] => none
  | c :: cs =>
    match closing? '\'' (c :: cs) with
    | some part => some part
    | none =>
      match c, cs with
      | '\r', '\n' :: rest => cons '\n' (literalLines rest)
      | c, rest => if isTextChar c || c == '\n' then cons c (literalLines rest) else none

/-- A line break at the start of a text of many lines does not count. -/
def dropBreak : List Char → List Char
  | '\n' :: rest => rest
  | '\r' :: '\n' :: rest => rest
  | cs => cs

/-- A text in quotation marks of any kind. -/
def text (cs : List Char) : Option (String × List Char) :=
  let part : Option (List Char × List Char) :=
    if cs.take 3 = ['"', '"', '"'] then basicLines .no (dropBreak (cs.drop 3))
    else if cs.take 3 = ['\'', '\'', '\''] then literalLines (dropBreak (cs.drop 3))
    else
      match cs with
      | c :: rest => if c = '"' then basic rest else if c = '\'' then literal rest else none
      | [] => none
  part.map fun (text, rest) => (String.ofList text, rest)

/-! ## Keys -/

def isBareChar (c : Char) : Bool := c.isAlphanum || c == '_' || c == '-'

/-- A single key. -/
def simpleKey (cs : List Char) : Option (String × List Char) :=
  match cs with
  | c :: rest =>
    if c = '"' then (basic rest).map fun (text, rest) => (String.ofList text, rest)
    else if c = '\'' then (literal rest).map fun (text, rest) => (String.ofList text, rest)
    else
      let key := cs.takeWhile isBareChar
      if key.isEmpty then none else some (String.ofList key, cs.dropWhile isBareChar)
  | [] => none

/-- A key of parts with dots between them. The fuel bounds the number of parts. -/
def key : Nat → List Char → Option (List String × List Char)
  | 0, _ => none
  | fuel + 1, cs => do
    let (first, cs) ← simpleKey (skipBlanks cs)
    match skipBlanks cs with
    | '.' :: cs =>
      let (more, cs) ← key fuel cs
      return (first :: more, cs)
    | cs => return ([first], cs)

end HostAgent.Toml
