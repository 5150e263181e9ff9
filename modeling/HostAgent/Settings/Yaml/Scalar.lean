import HostAgent.Decimal.Power
import HostAgent.Settings.Value
import HostAgent.Text.Hex

/-!
# YAML scalars

A text in quotation marks stands for itself. A text without them may look like
nothing, a truth value or a number, and then it is that. Breaks inside a text are
folded: a single one is a space, and of several all but one stay.

## Main results

* `Yaml.plain?_of_text`: a text that looks like nothing else is kept.
-/

namespace HostAgent.Yaml

def isBlank (c : Char) : Bool := c == ' ' || c == '\t'

def isGap (c : Char) : Bool := isBlank c || c == '\n'

def dropBlanks (cs : List Char) : List Char := cs.dropWhile isBlank

def trim (cs : List Char) : List Char := Text.trimBoth isGap cs

/-- What a run of blanks and breaks inside a text stands for. -/
def folded (gap : List Char) : List Char :=
  match gap.count '\n' with
  | 0 => gap
  | 1 => [' ']
  | n + 2 => List.replicate (n + 1) '\n'

/-! ## Texts without quotation marks -/

/-- Integers with a mark of their base in front. -/
def based? (s : String) : Option Int :=
  match s.toList with
  | '0' :: 'x' :: ds => if ds.isEmpty then none else (digitsOf 16 ds)
  | '0' :: 'o' :: ds => if ds.isEmpty then none else (digitsOf 8 ds)
  | '+' :: ds => Decimal.int64? (String.ofList ds)
  | _ => none
where
  digitsOf (base : Nat) (ds : List Char) : Option Int := do
    let values ← ds.mapM Text.hexDigit?
    let n : Int := Text.ofDigits base values
    if values.all (· < base) && n < (twoPow 63 : Int) then some n else none

/-- The special floating-point numbers. A setting cannot have one of these names. -/
def isSpecial (s : String) : Bool :=
  [".inf", ".Inf", ".INF", "+.inf", "+.Inf", "+.INF", "-.inf", "-.Inf", "-.INF", ".nan",
    ".NAN"].contains s

/-- The value of a text without quotation marks. -/
def plain? (s : String) : Option SettingValue :=
  if s = "~" ∨ s = "null" then some .null
  else if s = "true" then some (.bool true)
  else if s = "false" then some (.bool false)
  else if isSpecial s then none
  else
    match based? s, Decimal.int64? s, Decimal.float? s with
    | some n, _, _ => some (.int n)
    | none, some n, _ => some (.int n)
    | none, none, some x => some (.float x)
    | none, none, none => some (.text s)

theorem plain?_of_text {s : String} (hnull : s ≠ "~" ∧ s ≠ "null") (ht : s ≠ "true")
    (hf : s ≠ "false") (hs : isSpecial s = false) (hb : based? s = none)
    (hi : Decimal.int64? s = none) (hx : Decimal.float? s = none) :
    plain? s = some (.text s) := by
  simp [plain?, hnull, ht, hf, hs, hb, hi, hx]

/-! ## Texts in quotation marks -/

/-- The character after a backslash that needs no digits. -/
def shortEscape? : Char → Option Char
  | '0' => some '\x00'
  | 'a' => some '\x07'
  | 'b' => some '\x08'
  | 't' | '\t' => some '\t'
  | 'n' => some '\n'
  | 'v' => some '\x0b'
  | 'f' => some '\x0c'
  | 'r' => some '\r'
  | 'e' => some '\x1b'
  | ' ' => some ' '
  | '"' => some '"'
  | '/' => some '/'
  | '\\' => some '\\'
  | 'N' => some '\u0085'
  | '_' => some '\u00a0'
  | 'L' => some '\u2028'
  | 'P' => some '\u2029'
  | _ => none

/-- A text after its opening mark `'"'`, and what follows. The fuel bounds its length. -/
def double : Nat → List Char → Option (List Char × List Char)
  | 0, _ => none
  | _, [] => none
  | fuel + 1, c :: cs =>
    let then_ (front : List Char) (cs : List Char) : Option (List Char × List Char) :=
      (double fuel cs).map fun (text, cs) => (front ++ text, cs)
    if c = '"' then some ([], cs)
    else if isGap c then
      then_ (folded ((c :: cs).takeWhile isGap)) ((c :: cs).dropWhile isGap)
    else if c = '\\' then
      let coded (count : Nat) (cs : List Char) : Option (List Char × List Char) := do
        if (cs.take count).length < count then none
        then_ [← Text.codePoint? (cs.take count)] (cs.drop count)
      match cs with
      | 'x' :: cs => coded 2 cs
      | 'u' :: cs => coded 4 cs
      | 'U' :: cs => coded 8 cs
      | '\n' :: cs => then_ [] (cs.dropWhile isGap)
      | d :: cs => do then_ [← shortEscape? d] cs
      | [] => none
    else then_ [c] cs

/-- A text after its opening mark `'\''`, and what follows. -/
def single : Nat → List Char → Option (List Char × List Char)
  | 0, _ => none
  | _, [] => none
  | fuel + 1, c :: cs =>
    let then_ (front : List Char) (cs : List Char) : Option (List Char × List Char) :=
      (single fuel cs).map fun (text, cs) => (front ++ text, cs)
    if c = '\'' then
      match cs with
      | '\'' :: cs => then_ ['\''] cs
      | cs => some ([], cs)
    else if isGap c then
      then_ (folded ((c :: cs).takeWhile isGap)) ((c :: cs).dropWhile isGap)
    else then_ [c] cs

/-- A text in marks of either kind. -/
def quoted? (cs : List Char) : Option (String × List Char) :=
  let read : Option (List Char × List Char) :=
    match cs with
    | '"' :: cs => double (cs.length + 1) cs
    | '\'' :: cs => single (cs.length + 1) cs
    | _ => none
  read.map fun (text, cs) => (String.ofList text, cs)

end HostAgent.Yaml
