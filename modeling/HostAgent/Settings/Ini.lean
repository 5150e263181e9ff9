import HostAgent.Settings.Value
import HostAgent.Text.Hex

/-!
# INI documents

A document is a list of keys and values, some of them in named sections. A key
ends at `=` or `:`, wherever in the text that is; a value ends with its line.
Blanks around both are dropped, except between quotation marks. A backslash starts
an escape everywhere.

## Main results

* `Ini.upTo_plain`: characters that end nothing and start no escape are kept.
-/

namespace HostAgent.Ini

/-- The character after a backslash, and the rest. A line break after a backslash is no
character. -/
def escape? : List Char → Option (Option Char × List Char)
  | [] => none
  | 'x' :: a :: b :: c :: d :: rest => (Text.codePoint? [a, b, c, d]).map fun c => (some c, rest)
  | 'x' :: _ => none
  | '\n' :: rest => some (none, rest)
  | '0' :: rest => some (some '\x00', rest)
  | 'a' :: rest => some (some '\x07', rest)
  | 'b' :: rest => some (some '\x08', rest)
  | 't' :: rest => some (some '\t', rest)
  | 'r' :: rest => some (some '\r', rest)
  | 'n' :: rest => some (some '\n', rest)
  | c :: rest => some (some c, rest)

/-- The characters up to one that ends them, and the rest from there. The fuel bounds their
number. -/
def upTo (isEnd : Char → Bool) : Nat → List Char → Option (List Char × List Char)
  | 0, _ => none
  | _, [] => some ([], [])
  | fuel + 1, c :: cs =>
    if isEnd c then some ([], c :: cs)
    else if c = '\\' then do
      let (c, cs) ← escape? cs
      let (text, cs) ← upTo isEnd fuel cs
      return (c.toList ++ text, cs)
    else do
      let (text, cs) ← upTo isEnd fuel cs
      return (c :: text, cs)

theorem upTo_plain {isEnd : Char → Bool} {cs rest : List Char} {c : Char} {fuel : Nat}
    (hs : ∀ d ∈ cs, isEnd d = false ∧ d ≠ '\\') (hc : isEnd c = true) (hf : cs.length < fuel) :
    upTo isEnd fuel (cs ++ c :: rest) = some (cs, c :: rest) := by
  induction cs generalizing fuel with
  | nil =>
    cases fuel with
    | zero => omega
    | succ fuel => simp [upTo, hc]
  | cons d cs ih =>
    cases fuel with
    | zero => omega
    | succ fuel =>
      have hd := hs d List.mem_cons_self
      have ih := ih (fun e he => hs e (List.mem_cons_of_mem _ he)) (Nat.lt_of_succ_lt_succ hf)
      simp [upTo, hd.1, hd.2, ih]

/-- As `upTo`, but one of the ends must come; it is dropped. -/
def upToAny (isEnd : Char → Bool) (cs : List Char) : Option (List Char × List Char) := do
  match ← upTo isEnd (cs.length + 1) cs with
  | (text, _ :: cs) => some (text, cs)
  | (_, []) => none

def isBreak (c : Char) : Bool := c == '\n' || c == '\r'

def line (cs : List Char) : Option (List Char × List Char) := upTo isBreak (cs.length + 1) cs

/-- The value after the mark that ends a key. -/
def value (cs : List Char) : Option (List Char × List Char) :=
  match cs.dropWhile fun c => Text.isBlank c && !isBreak c with
  | [] => some ([], [])
  | mark :: rest =>
    if mark = '"' ∨ mark = '\'' then do
      let (inner, cs) ← upToAny (· == mark) rest
      let (more, cs) ← line cs
      return (inner ++ Text.trimBoth Text.isBlank more, cs)
    else (line (mark :: rest)).map fun (text, cs) => (Text.trimBoth Text.isBlank text, cs)

/-- The keys outside of sections, and the sections. The fuel bounds their number. -/
def entries : Nat → Bool → SettingTable → List Char → Option SettingTable
  | 0, _, _, _ => none
  | fuel + 1, isTop, found, cs =>
    match cs.dropWhile Text.isBlank with
    | [] => some found
    | c :: rest =>
      if c = ';' ∨ c = '#' then entries fuel isTop found (rest.dropWhile (· != '\n'))
      else if c = '[' then do
        let (name, cs) ← upToAny (· == ']') rest
        let name := Text.trim (String.ofList name)
        entries fuel false (found.insert name .composite) cs
      else do
        let (key, cs) ← upToAny (fun c => c == '=' || c == ':') (c :: rest)
        let key := Text.trim (String.ofList key)
        if key = "" then none
        let (text, cs) ← value cs
        let found := if isTop then found.insert key (.text (String.ofList text)) else found
        entries fuel isTop found cs

/-- The settings of a document. -/
def settings? (document : String) : Option SettingTable :=
  entries (document.length + 1) true ∅ document.toList

end HostAgent.Ini
