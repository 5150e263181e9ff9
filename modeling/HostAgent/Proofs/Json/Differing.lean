import HostAgent.Json.Decode

/-!
# Objects that differ in the values of one member

A record is told about a member by what the decoder of the member makes of its
value. So it is read alike from two objects that are the same but for the values
of one member, if these come to the same for the record. Whatever else stands in
the objects, and even if they cannot be read, does not matter.

## Main results

* `Fields.Blind.seq`, `Fields.Blind.map`, `Fields.blind_member`: records that do not tell
  such values apart, member by member.
* `Fields.decodeObject_differAt`: what is read of two such objects.
-/

namespace HostAgent.Json

variable {α β : Type} {name : String} {S : Tree → Tree → Prop}

/-- Members that are the same in the same order, but for values of one name, which are related. -/
inductive DifferAt (name : String) (S : Tree → Tree → Prop) : Members → Members → Prop
  | closed : DifferAt name S .closed .closed
  | broken (f : Fault) : DifferAt name S (.broken f) (.broken f)
  | cons (key : Except Fault String) (value : Tree) {ms ms' : Members} :
      DifferAt name S ms ms' → DifferAt name S (.cons key value ms) (.cons key value ms')
  | here {t t' : Tree} {ms ms' : Members} :
      S t t' → DifferAt name S ms ms' →
      DifferAt name S (.cons (.ok name) t ms) (.cons (.ok name) t' ms')

/-- The same is found under each name, but for values of one name, which are related. -/
def FoundAt (name : String) (S : Tree → Tree → Prop) (found found' : String → Option Tree) : Prop :=
  ∀ key, found key = found' key ∨
    key = name ∧ ∃ t t', found key = some t ∧ found' key = some t' ∧ S t t'

theorem FoundAt.isSome_eq {found found' : String → Option Tree} (h : FoundAt name S found found')
    (key : String) : (found key).isSome = (found' key).isSome := by
  rcases h key with heq | ⟨-, t, t', ht, ht', -⟩
  · rw [heq]
  · rw [ht, ht']
    rfl

/-- The relation is kept if the same is found under one more name. -/
theorem FoundAt.cons {found found' : List (String × Tree)}
    (h : FoundAt name S (Entries.get? · found) (Entries.get? · found')) (key : String) {t t' : Tree}
    (ht : t = t' ∨ key = name ∧ S t t') :
    FoundAt name S (Entries.get? · ((key, t) :: found)) (Entries.get? · ((key, t') :: found')) := by
  intro other
  by_cases hkey : other = key
  · subst hkey
    simp only [Entries.get?, if_pos]
    rcases ht with rfl | ⟨hname, hs⟩
    · exact .inl rfl
    · exact .inr ⟨hname, t, t', rfl, rfl, hs⟩
  · simpa only [Entries.get?, if_neg hkey] using h other

namespace Fields

/-- A record does not tell such values apart. -/
def Blind (fields : Fields α) (r : Reading) (name : String) (S : Tree → Tree → Prop) : Prop :=
  ∀ found found', FoundAt name S found found' → fields.build r found = fields.build r found'

variable {r : Reading}

theorem Blind.map {x : Fields α} (hx : x.Blind r name S) (f : α → β) : (x.map f).Blind r name S :=
  fun found found' h => congrArg (Except.map f) (hx found found' h)

theorem Blind.seq {f : Fields (α → β)} {x : Fields α} (hf : f.Blind r name S)
    (hx : x.Blind r name S) : (f.seq x).Blind r name S := by
  intro found found' h
  simp only [Fields.seq, hf found found' h, hx found found' h]

/-- A member is blind if it has another name, or reads related values alike. -/
theorem blind_member {d : Decoder α} {absent : Except Error α} {hasDefault : Bool} {own : String}
    (h : own = name → ∀ t t', S t t' → d r t = d r t') :
    (member own d absent hasDefault).Blind r name S := by
  intro found found' hfound
  simp only [member]
  rcases hfound own with heq | ⟨hown, t, t', ht, ht', hs⟩
  · rw [heq]
  · rw [ht, ht']
    exact h hown t t' hs

/-! ## Going through the members -/

variable {fields : List Field} {field : Field} {key : String} {found found' : List (String × Tree)}

theorem collect_unknown (hfind : fields.find? (·.name = key) = none) (value : Tree)
    (ms : Members) :
    collect fields r found (.cons (.ok key) value ms) =
      (Decoder.lift value.skip).bind fun _ => collect fields r found ms := by
  have hkey : Decoder.lift (.ok key : Except Fault String) = .ok key := rfl
  simp only [collect, hkey, bind, Except.bind, hfind]

theorem collect_known (hfind : fields.find? (·.name = key) = some field) (value : Tree)
    (ms : Members) :
    collect fields r found (.cons (.ok key) value ms) =
      if (Entries.get? key found).isSome then .error (.duplicateField key)
      else (field.check r value).bind fun _ => collect fields r ((key, value) :: found) ms := by
  have hkey : Decoder.lift (.ok key : Except Fault String) = .ok key := rfl
  simp only [collect, hkey, bind, Except.bind, hfind]
  split <;> rfl

/-- Of two such objects the same is found, or the same error. -/
theorem collect_differAt (hfield : fields.find? (·.name = name) = some field)
    (hcheck : ∀ t t', S t t' → field.check r t = field.check r t') {ms ms' : Members}
    (h : DifferAt name S ms ms')
    (hfound : FoundAt name S (Entries.get? · found) (Entries.get? · found'))
    {k : List (String × Tree) → Except Error α}
    (hk : ∀ found found', FoundAt name S (Entries.get? · found) (Entries.get? · found') →
      k found = k found') :
    (collect fields r found ms).bind k = (collect fields r found' ms').bind k := by
  induction h generalizing found found' with
  | closed => exact hk found found' hfound
  | broken f => rfl
  | cons key value _ ih =>
      cases key with
      | error f => rfl
      | ok key =>
          cases hfind : fields.find? (·.name = key) with
          | none =>
              rw [collect_unknown hfind, collect_unknown hfind]
              cases Decoder.lift value.skip with
              | error e => rfl
              | ok _ => exact ih hfound
          | some field =>
              rw [collect_known hfind, collect_known hfind, hfound.isSome_eq key]
              split
              · rfl
              · cases field.check r value with
                | error e => rfl
                | ok _ => exact ih (hfound.cons key (.inl rfl))
  | @here t t' _ _ hs _ ih =>
      rw [collect_known hfield, collect_known hfield, hfound.isSome_eq name, hcheck t t' hs]
      split
      · rfl
      · cases field.check r t' with
        | error e => rfl
        | ok _ => exact ih (hfound.cons name (.inr ⟨rfl, hs⟩))

/-- Two such objects are read alike by a record that does not tell the values apart. -/
theorem decodeObject_differAt {fields : Fields α} {depth : Nat}
    (hfield : fields.members.find? (·.name = name) = some field)
    (hcheck : ∀ t t', S t t' → field.check ⟨.text, depth⟩ t = field.check ⟨.text, depth⟩ t')
    (hblind : fields.Blind ⟨.text, depth⟩ name S) {ms ms' : Members} (h : DifferAt name S ms ms') :
    fields.decodeObject ⟨.text, depth + 1⟩ (.object ms) =
      fields.decodeObject ⟨.text, depth + 1⟩ (.object ms') :=
  collect_differAt hfield hcheck h (fun _ => .inl rfl) fun _ _ => hblind _ _

end Fields

end HostAgent.Json
