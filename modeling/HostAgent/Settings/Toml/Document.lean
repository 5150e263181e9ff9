import HostAgent.Settings.Toml.Scalar

/-!
# TOML documents

A document is a list of lines: a key and its value, or the name of the table that
the following keys belong to. A key is given once; a table is named once, and may
be named after tables below it; a table that is made by the dots of a key may get
more keys in the same way only.
-/

namespace HostAgent.Toml

/-! ## Trees of tables -/

/-- How a table came to be. -/
inductive TableKind
  /-- By the name of a table below it. -/
  | implied
  /-- By its own name. -/
  | named
  /-- By the dots of a key. -/
  | dotted
deriving DecidableEq, Repr

inductive Node
  | value (v : SettingValue)
  | table (kind : TableKind) (entries : List (String × Node))
  /-- A list of tables, newest first. -/
  | tables (newest : List (String × Node)) (older : Nat)

/-- The keys of a table and what they stand for. -/
abbrev Table : Type := List (String × Node)

/-- Give a value to a key with dots. -/
def define (v : SettingValue) : List String → Table → Option Table
  | [], _ => none
  | [key], es =>
    match Entries.get? key es with
    | none => some (Entries.insert key (.value v) es)
    | some _ => none
  | key :: keys, es =>
    match Entries.get? key es with
    | none => do
      let inner ← define v keys []
      return Entries.insert key (.table .dotted inner) es
    | some (.table kind inner) => do
      if kind = .named then none
      let inner ← define v keys inner
      return Entries.insert key (.table kind inner) es
    | some _ => none

/-- Change the table of a path. Tables on the way to it are implied. -/
def atPath (change : Table → Option Table) : List String → Table → Option Table
  | [], es => change es
  | key :: keys, es =>
    match Entries.get? key es with
    | none => do
      let inner ← atPath change keys []
      return Entries.insert key (.table .implied inner) es
    | some (.table kind inner) => do
      let inner ← atPath change keys inner
      return Entries.insert key (.table kind inner) es
    | some (.tables newest older) => do
      let newest ← atPath change keys newest
      return Entries.insert key (.tables newest older) es
    | some (.value _) => none

/-- Name a table. -/
def nameTable (key : String) (es : Table) : Option Table :=
  match Entries.get? key es with
  | none => some (Entries.insert key (.table .named []) es)
  | some (.table .implied inner) => some (Entries.insert key (.table .named inner) es)
  | some _ => none

/-- Add a table to a list. -/
def addTable (key : String) (es : Table) : Option Table :=
  match Entries.get? key es with
  | none => some (Entries.insert key (.tables [] 0) es)
  | some (.tables _ older) => some (Entries.insert key (.tables [] (older + 1)) es)
  | some _ => none

/-! ## Values -/

mutual

/-- A value. The fuel bounds how deep values lie in values, and how many there are. -/
def value : Nat → List Char → Option (SettingValue × List Char)
  | 0, _ => none
  | fuel + 1, cs =>
    match cs with
    | [] => none
    | c :: rest =>
      if c = '"' || c = '\'' then (text cs).map fun (s, rest) => (.text s, rest)
      else if c = '[' then (items fuel rest).map fun rest => (.composite, rest)
      else if c = '\x7b' then
        match skipBlanks rest with
        | '\x7d' :: rest => some (.composite, rest)
        | rest => (members fuel [] rest).map fun rest => (.composite, rest)
      else do
        let v ← scalar? (scalarChars cs).1
        return (v, (scalarChars cs).2)

/-- The characters after a list that was opened. -/
def items : Nat → List Char → Option (List Char)
  | 0, _ => none
  | fuel + 1, cs =>
    match skipLines cs.length cs with
    | ']' :: rest => some rest
    | cs => do
      let (_, cs) ← value fuel cs
      match skipLines cs.length cs with
      | ',' :: rest => items fuel rest
      | ']' :: rest => some rest
      | _ => none

/-- The characters after the members of a table in braces. -/
def members : Nat → Table → List Char → Option (List Char)
  | 0, _, _ => none
  | fuel + 1, es, cs => do
    let (path, cs) ← key cs.length cs
    let cs ← expect? '=' (skipBlanks cs)
    let (v, cs) ← value fuel (skipBlanks cs)
    let es ← define v path es
    match skipBlanks cs with
    | ',' :: rest => members fuel es rest
    | '\x7d' :: rest => some rest
    | _ => none

end

/-! ## Documents -/

/-- The tables read so far, and the table that keys belong to. -/
structure Document where
  root : Table
  path : List String

/-- The header of a table after its opening bracket. -/
def header (d : Document) (cs : List Char) : Option (Document × List Char) := do
  let (isList, cs) := match cs with
    | '[' :: cs => (true, cs)
    | cs => (false, cs)
  let (path, cs) ← key cs.length cs
  let cs ← expect? ']' cs
  let cs ← if isList then expect? ']' cs else some cs
  let last ← path.getLast?
  let root ← atPath (if isList then addTable last else nameTable last) path.dropLast d.root
  return (⟨root, path⟩, cs)

/-- A key and its value. -/
def assignment (d : Document) (cs : List Char) : Option (Document × List Char) := do
  let (path, cs) ← key cs.length cs
  let cs ← expect? '=' cs
  let cs := skipBlanks cs
  let (v, cs) ← value (cs.length + 1) cs
  let root ← atPath (define v path) d.path d.root
  return ({ d with root }, cs)

/-- The lines of a document. The fuel bounds their number. -/
def lines : Nat → Document → List Char → Option Document
  | 0, _, _ => none
  | fuel + 1, d, cs =>
    match skipLines cs.length cs with
    | [] => some d
    | cs => do
      let (d, cs) ← match cs with
        | '[' :: cs => header d cs
        | cs => assignment d cs
      let (_, cs) ← lineEnd cs
      lines fuel d cs

/-- The value of a node as a setting. -/
def Node.setting : Node → SettingValue
  | .value v => v
  | .table .. | .tables .. => .composite

/-- The settings at the top of a document. -/
def settings? (document : String) : Option SettingTable := do
  let cs := document.toList
  let d ← lines (cs.length + 1) ⟨[], []⟩ cs
  return .ofList (d.root.map fun e => (e.1, e.2.setting))

end HostAgent.Toml
