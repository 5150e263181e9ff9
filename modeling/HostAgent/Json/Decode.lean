import HostAgent.Decimal.Power
import HostAgent.Json.Tree

/-!
# Decoding

A `Decoder` reads a value of a domain type from a tree. It meets the parts of
the tree in text order, so the first fault of a text decides the answer. The
same decoders serve trees of texts and trees of values; `Origin` tells them
apart, because a wrong shape inside a text is in two places noticed by what
comes next in the text.

Records are described once, by `Fields`: name, decoder, and what an absent
member stands for. From this description follow both written forms of a record,
the object and the array of its members in the order of their description.

## Main results

* `Fields.decode`: the order of errors. A member's own error comes first, then a
  second member of one name, then an absent member.
-/

namespace HostAgent.Json

/-- Why a text or a value is not of the wanted type. -/
inductive Error
  | malformed
  | unfinished
  | mismatch
  | missingField (name : String)
  | duplicateField (name : String)
  | unknownVariant (found : String) (known : List String)
deriving DecidableEq, Repr

def Fault.error : Fault → Error
  | .malformed => .malformed
  | .unfinished => .unfinished

instance : Coe Fault Error := ⟨Fault.error⟩

/-- Names in quotes, separated by commas. -/
def quotedNames (names : List String) : String :=
  ", ".intercalate (names.map fun n => "`" ++ n ++ "`")

/-- The text of an error that names a member or a variant. -/
def Error.message? : Error → Option String
  | .missingField name => some ("missing field `" ++ name ++ "`")
  | .duplicateField name => some ("duplicate field `" ++ name ++ "`")
  | .unknownVariant found known =>
    some ("unknown variant `" ++ found ++ "`, expected " ++
      (if known.length = 1 then "" else "one of ") ++ quotedNames known)
  | _ => none

/-- Where a tree comes from. -/
inductive Origin
  | text
  | value
deriving DecidableEq, Repr

/-- The state of a reader: where the tree comes from, and how many containers may still open. -/
structure Reading where
  origin : Origin
  depth : Nat

abbrev Decoder (α : Type) := Reading → Tree → Except Error α

namespace Decoder

variable {α β : Type}

/-- A fault inside a kept part. -/
def lift (r : Except Fault α) : Except Error α := r.mapError Fault.error

/-- The error for a value of the wrong kind: a string or a number is read in full first. -/
def wrongKind : Tree → Error
  | .number (.error f) | .string (.error f) _ => f
  | .torn f _ | .nothing f => f
  | _ => .mismatch

def map (f : α → β) (d : Decoder α) : Decoder β := fun r t => (d r t).map f

/-- Refuse some of the values that `d` reads. -/
def filterMap (f : α → Option β) (d : Decoder α) : Decoder β := fun r t => do
  match f (← d r t) with
  | some b => .ok b
  | none => .error .mismatch

/-- Open a container, if one more may be opened. -/
def enter (r : Reading) : Except Error Reading :=
  match r.origin, r.depth with
  | .value, _ => .ok r
  | .text, 0 => .error .malformed
  | .text, depth + 1 => .ok { r with depth }

def string : Decoder String := fun _ t =>
  match t with
  | .string kept _ => lift kept
  | t => .error (wrongKind t)

def bool : Decoder Bool := fun _ t =>
  match t with
  | .bool b => .ok b
  | t => .error (wrongKind t)

def number : Decoder Number := fun _ t =>
  match t with
  | .number kept => lift kept
  | t => .error (wrongKind t)

/-- A whole number between two bounds. -/
def intIn (lo hi : Int) : Decoder Int :=
  number.filterMap fun
    | .int n => if lo ≤ n ∧ n ≤ hi then some n else none
    | .float _ => none

/-- A natural number of at most so many bits. -/
def natBelow (bits : Nat) : Decoder Nat :=
  number.filterMap fun
    | .int n => if 0 ≤ n ∧ n < twoPow bits then some n.toNat else none
    | .float _ => none

def uint16 : Decoder UInt16 := (natBelow 16).map Nat.toUInt16

def uint32 : Decoder UInt32 := (natBelow 32).map Nat.toUInt32

def uint64 : Decoder UInt64 := (natBelow 64).map Nat.toUInt64

def int64 : Decoder Int64 := (intIn (-(twoPow 63 : Int)) ((twoPow 63 : Int) - 1)).map Int64.ofInt

/-- The floating-point number nearest to a whole number of 64 bits. -/
def nearest (n : Int) : Binary64 :=
  .ofFloat (if n < 0 then -n.natAbs.toUInt64.toFloat else n.toNat.toUInt64.toFloat)

/-- A floating-point number; whole numbers are accepted. -/
def float : Decoder Binary64 :=
  number.map fun
    | .int n => nearest n
    | .float x => x

/-- Any value. -/
def any : Decoder Json := fun r t =>
  match r.origin with
  | .text => lift (t.keep r.depth)
  | .value => lift (t.keep maxDepth)

/-- A value or `null`. -/
def option (d : Decoder α) : Decoder (Option α) := fun r t =>
  match t with
  | .null => .ok none
  | t => (d r t).map some

/-- The items of an array. -/
def items (d : Decoder α) (r : Reading) : Items → Except Error (List α)
  | .closed => .ok []
  | .broken f => .error f
  | .cons head tail => do
    let a ← d r head
    return a :: (← items d r tail)

def list (d : Decoder α) : Decoder (List α) := fun r t =>
  match t with
  | .array is => do items d (← enter r) is
  | t => .error (wrongKind t)

/-- The members of an object with arbitrary keys, put into a map. -/
def entries (d : Decoder α) (r : Reading) (before : KeyMap α) : Members → Except Error (KeyMap α)
  | .closed => .ok before
  | .broken f => .error f
  | .cons key value tail => do
    let key ← lift key
    let a ← d r value
    entries d r (before.insert key a) tail

def keyMap (d : Decoder α) : Decoder (KeyMap α) := fun r t =>
  match t with
  | .object ms => do entries d (← enter r) ∅ ms
  | t => .error (wrongKind t)

/-- The variant of this name. -/
def variantNamed (known : List (String × α)) (name : String) : Except Error α :=
  match Entries.get? name known with
  | some a => .ok a
  | none => .error (.unknownVariant name (known.map (·.1)))

/-- One of several named variants: its name as a string, or as the only key of an object whose
value is `null`. Any other value inside a text is malformed. -/
def variant (known : List (String × α)) : Decoder α := fun r t =>
  match t with
  | .string kept _ => do variantNamed known (← lift kept)
  | .object members => do
    let _ ← enter r
    match members with
    | .closed => .error (if r.origin = .text then .malformed else .mismatch)
    | .broken f => .error f
    | .cons key value tail =>
      let a ← variantNamed known (← lift key)
      match value with
      | .null =>
        match tail with
        | .closed => .ok a
        | .broken f => .error f
        | .cons .. => .error (if r.origin = .text then .malformed else .mismatch)
      | value => .error (wrongKind value)
  | .nothing f => .error f
  | _ => .error (if r.origin = .text then .malformed else .mismatch)

end Decoder

/-! ## Records -/

/-- A member of a record: its name, and a decoder for the sake of its errors. -/
structure Field where
  name : String
  check : Reading → Tree → Except Error Unit
  /-- May the member be left out of the array form? -/
  hasDefault : Bool

/-- The members of a record in order, and how to build the record from the trees found. -/
structure Fields (α : Type) where
  members : List Field
  build : Reading → (String → Option Tree) → Except Error α

namespace Fields

variable {α β : Type}

def pure (a : α) : Fields α := ⟨[], fun _ _ => .ok a⟩

/-- The members of both descriptions, those of the first before those of the second. -/
def seq (f : Fields (α → β)) (x : Fields α) : Fields β :=
  ⟨f.members ++ x.members, fun r found => do
    let g ← f.build r found
    return g (← x.build r found)⟩

def map (f : α → β) (x : Fields α) : Fields β :=
  ⟨x.members, fun r found => (x.build r found).map f⟩

instance : Functor Fields where map := map

instance : Seq Fields where seq f x := f.seq (x ())

/-- A member with a decoder; `absent` is what a missing member stands for. -/
def member (name : String) (d : Decoder α) (absent : Except Error α) (hasDefault : Bool) :
    Fields α :=
  ⟨[⟨name, fun r t => (d r t).map fun _ => (), hasDefault⟩], fun r found =>
    match found name with
    | some t => d r t
    | none => absent⟩

/-- A member that must be there. -/
def required (name : String) (d : Decoder α) : Fields α :=
  member name d (.error (.missingField name)) false

/-- A member with a default. -/
def withDefault (name : String) (d : Decoder α) (default : α) : Fields α :=
  member name d (.ok default) true

/-- A member that may be absent or `null`. -/
def optional (name : String) (d : Decoder α) : Fields (Option α) :=
  withDefault name d.option none

/-- As `optional`, but the array form must have it. -/
def optionalNamed (name : String) (d : Decoder α) : Fields (Option α) :=
  member name d.option (.ok none) false

/-- Go through the members of an object in order. Each value of a described member is checked;
others are skipped. The result holds the trees by name. -/
def collect (fields : List Field) (r : Reading) (found : List (String × Tree)) :
    Members → Except Error (List (String × Tree))
  | .closed => .ok found
  | .broken f => .error f
  | .cons key value tail => do
    let key ← Decoder.lift key
    match fields.find? (·.name = key) with
    | none => do
      Decoder.lift value.skip
      collect fields r found tail
    | some field => do
      if (Entries.get? key found).isSome then throw (.duplicateField key)
      field.check r value
      collect fields r ((key, value) :: found) tail

/-- Give the items of an array to the members in order. Items left over end the reading of a text
where they start, and are a mismatch in a value. -/
def assign (r : Reading) (found : List (String × Tree)) :
    List Field → Items → Except Error (List (String × Tree))
  | _, .broken f => .error f
  | [], .closed => .ok found
  | [], .cons .. => .error (if r.origin = .text then .malformed else .mismatch)
  | field :: fields, .closed =>
    if field.hasDefault then assign r found fields .closed else .error .mismatch
  | field :: fields, .cons head tail => do
    field.check r head
    assign r ((field.name, head) :: found) fields tail

/-- The record, read from an object or from an array. -/
def decode (fields : Fields α) : Decoder α := fun r t =>
  match t with
  | .object members => do
    let r ← Decoder.enter r
    let found ← collect fields.members r [] members
    fields.build r (Entries.get? · found)
  | .array items => do
    let r ← Decoder.enter r
    let found ← assign r [] fields.members items
    fields.build r (Entries.get? · found)
  | t => .error (Decoder.wrongKind t)

/-- The record, read from an object only. -/
def decodeObject (fields : Fields α) : Decoder α := fun r t =>
  match t with
  | .array _ => .error .mismatch
  | t => fields.decode r t

end Fields

/-! ## Whole texts and values -/

/-- Read a value of a type from a text; nothing may follow it. -/
def decodeText {α : Type} (d : Decoder α) (text : String) : Except Error α := do
  let doc := read text
  let a ← d ⟨.text, maxDepth⟩ doc.root
  if doc.trailing then .error .malformed else .ok a

/-- Read a value of a type from a JSON value. -/
def decodeValue {α : Type} (d : Decoder α) (value : Json) : Except Error α :=
  d ⟨.value, maxDepth⟩ (Tree.ofJson value)

end HostAgent.Json
