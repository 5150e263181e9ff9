import HostAgent.Json.Decode
import HostAgent.Proofs.Json.Keeping

/-!
# Values that are written are decoded again

A decoder is stable for an encoder if it decodes what the encoder writes of any
value that it decoded itself. A default is written although the text it stands for
may have left it out, so a few levels of depth have to be left, how many depends
on the type. Stability goes from items to lists, from values to maps, and from the
members of a record to the record: what is written of a member is found again by
its name alone, as no two members of a record have one name.

## Main results

* `Stable.list`, `Stable.keyMap`, `Stable.variant`, `stable_any`: stability of the forms of values.
* `Faithful.seq`, `Faithful.written`, `Faithful.ifSome`: records member by member.
* `Stable.record`: a record is stable if each of its members is.
* `Stable.decodeText_render`: a stable type is decoded again from its own text.
-/

namespace HostAgent.Json

variable {α β : Type} {k : Nat}

/-- The value fits, and is decoded again from what is written of it. -/
structure Again (d : Decoder α) (encode : α → Json) (depth : Nat) (a : α) : Prop where
  fits : (encode a).Fits
  decodes : d ⟨.text, depth⟩ (Tree.ofJson (encode a)) = .ok a

/-- Whatever is decoded of a text where `k` more containers may open is decoded again. -/
def Stable (k : Nat) (d : Decoder α) (encode : α → Json) : Prop :=
  ∀ depth t a, k ≤ depth → t.Fits → d ⟨.text, depth⟩ t = .ok a → Again d encode depth a

/-- All values of the type are decoded again. -/
theorem Stable.of_again {d : Decoder α} {encode : α → Json}
    (h : ∀ depth a, Again d encode depth a) : Stable k d encode := fun depth _ a _ _ _ => h depth a

/-! ## Scalars -/

theorem again_string (depth : Nat) (s : String) : Again .string .string depth s := ⟨trivial, rfl⟩

theorem again_bool (depth : Nat) (b : Bool) : Again .bool .bool depth b := ⟨trivial, rfl⟩

theorem fits_nat {n : Nat} (h : n < twoPow 64) : (Json.nat n).Fits := ⟨by omega, by omega⟩

/-- A number below a bound is decoded again. -/
theorem natBelow_nat {bits n : Nat} (h : n < twoPow bits) (r : Reading) :
    Decoder.natBelow bits r (Tree.ofJson (.nat n)) = .ok n := by
  have hbounds : 0 ≤ (n : Int) ∧ (n : Int) < twoPow bits := ⟨by omega, by omega⟩
  have hnumber : Decoder.number r (Tree.ofJson (.nat n)) = .ok (.int n) := rfl
  simp only [Decoder.natBelow, Decoder.filterMap, hnumber, bind, Except.bind, if_pos hbounds]
  rfl

/-- A type of numbers of at most 64 bits. -/
theorem again_natBelow {bits : Nat} (hbits : twoPow bits ≤ twoPow 64) {toNat : α → Nat}
    {ofNat : Nat → α} (hlt : ∀ a, toNat a < twoPow bits) (hinv : ∀ a, ofNat (toNat a) = a)
    (depth : Nat) (a : α) :
    Again ((Decoder.natBelow bits).map ofNat) (fun a => .nat (toNat a)) depth a := by
  refine ⟨fits_nat (Nat.lt_of_lt_of_le (hlt a) hbits), ?_⟩
  rw [Decoder.map, natBelow_nat (hlt a)]
  exact congrArg Except.ok (hinv a)

theorem again_uint16 (depth : Nat) (n : UInt16) :
    Again .uint16 (fun n => .nat n.toNat) depth n :=
  again_natBelow (by decide) UInt16.toNat_lt (fun _ => UInt16.ofNat_toNat) depth n

theorem again_uint32 (depth : Nat) (n : UInt32) :
    Again .uint32 (fun n => .nat n.toNat) depth n :=
  again_natBelow (by decide) UInt32.toNat_lt (fun _ => UInt32.ofNat_toNat) depth n

theorem again_uint64 (depth : Nat) (n : UInt64) :
    Again .uint64 (fun n => .nat n.toNat) depth n :=
  again_natBelow (Nat.le_of_eq rfl) UInt64.toNat_lt (fun _ => UInt64.ofNat_toNat) depth n

/-- A text that some reader reads is decoded again if the reader reads what is written. -/
theorem again_readText {read : String → Option α} {write : α → String}
    (h : ∀ a, read (write a) = some a) (depth : Nat) (a : α) :
    Again (Decoder.string.filterMap read) (fun a => .string (write a)) depth a := by
  refine ⟨trivial, ?_⟩
  have hstring : Decoder.string ⟨.text, depth⟩ (Tree.ofJson (.string (write a))) =
      .ok (write a) := rfl
  simp only [Decoder.filterMap, hstring, bind, Except.bind, h]

/-- A variant is decoded again if its name is listed for it. -/
theorem again_variant {known : List (String × α)} {name : α → String}
    (h : ∀ a, Entries.get? (name a) known = some a) (depth : Nat) (a : α) :
    Again (.variant known) (fun a => .string (name a)) depth a := by
  refine ⟨trivial, ?_⟩
  show Decoder.variantNamed known (name a) = _
  rw [Decoder.variantNamed, h]

theorem lift_eq_ok {r : Except Fault α} {a : α} : Decoder.lift r = .ok a ↔ r = .ok a := by
  cases r with
  | error f => exact ⟨nofun, nofun⟩
  | ok b => exact ⟨fun h => Except.ok.inj h ▸ rfl, fun h => Except.ok.inj h ▸ rfl⟩

/-- What is kept of a text is kept again. -/
theorem stable_any : Stable k .any fun j => j := by
  intro depth t j _ hfits h
  have hkeep : t.keep depth = .ok j := lift_eq_ok.1 h
  have hkept := t.keep_again hfits depth j hkeep
  exact ⟨hkept.fits, lift_eq_ok.2 hkept.again⟩

/-! ## Lists and maps -/

/-- A container can be opened, and inside it there is one level less. -/
theorem inner_level {depth : Nat} (h : k + 1 ≤ depth) : ∃ inner, depth = inner + 1 ∧ k ≤ inner :=
  ⟨depth - 1, by omega, by omega⟩

theorem items_again {d : Decoder α} {encode : α → Json} (hd : Stable k d encode) {depth : Nat}
    (hdepth : k ≤ depth) {is : Items} {as : List α} (hfits : is.Fits)
    (h : Decoder.items d ⟨.text, depth⟩ is = .ok as) :
    (∀ a ∈ as, (encode a).Fits) ∧
      Decoder.items d ⟨.text, depth⟩ (Items.ofList (as.map encode)) = .ok as := by
  induction as generalizing is with
  | nil => exact ⟨by simp, rfl⟩
  | cons a as ih =>
      cases is with
      | closed => cases h
      | broken f => cases h
      | cons head tail =>
          rw [Decoder.items] at h
          obtain ⟨b, hhead, hafter⟩ := bind_eq_ok.1 h
          obtain ⟨bs, htail, hcons⟩ := bind_eq_ok.1 hafter
          obtain ⟨rfl, rfl⟩ := List.cons.inj (Except.ok.inj hcons)
          have hagain := hd depth head b hdepth hfits.1 hhead
          obtain ⟨hall, hrest⟩ := ih hfits.2 htail
          refine ⟨List.forall_mem_cons.2 ⟨hagain.fits, hall⟩, ?_⟩
          rw [List.map_cons, Items.ofList, Decoder.items, hagain.decodes, hrest]
          rfl

/-- Lists of a stable type are stable. -/
theorem Stable.list {d : Decoder α} {encode : α → Json} (hd : Stable k d encode) :
    Stable (k + 1) d.list fun as => .array (as.map encode) := by
  intro depth t as hdepth hfits h
  obtain ⟨inner, rfl, hinner⟩ := inner_level hdepth
  cases t with
  | array is =>
      have hitems : Decoder.items d ⟨.text, inner⟩ is = .ok as := h
      obtain ⟨hall, hagain⟩ := items_again hd hinner hfits hitems
      refine ⟨(itemsFit_iff _).2 ?_, hagain⟩
      simpa using hall
  | _ => cases h

theorem again_nil {d : Decoder α} {encode : α → Json} {depth : Nat} (h : k + 1 ≤ depth) :
    Again d.list (fun as => .array (as.map encode)) depth [] := by
  obtain ⟨inner, rfl, -⟩ := inner_level h
  exact ⟨trivial, rfl⟩

/-- The entries that are decoded once more are put in one after another. -/
theorem entries_ofList {d : Decoder α} {encode : α → Json} {depth : Nat}
    {es : List (String × α)} (h : ∀ e ∈ es, Again d encode depth e.2) (before : KeyMap α) :
    Decoder.entries d ⟨.text, depth⟩ before
        (Members.ofList (es.map fun e => (e.1, encode e.2))) =
      .ok (es.foldl (fun m e => m.insert e.1 e.2) before) := by
  induction es generalizing before with
  | nil => rfl
  | cons e es ih =>
      have hagain := h e List.mem_cons_self
      have hrest := ih (fun e he => h e (List.mem_cons_of_mem _ he)) (before.insert e.1 e.2)
      rw [List.map_cons, Members.ofList, Decoder.entries, hagain.decodes]
      exact hrest

/-- The values of a map that was decoded are decoded again. -/
theorem entries_again {d : Decoder α} {encode : α → Json} (hd : Stable k d encode) {depth : Nat}
    (hdepth : k ≤ depth) (ms : Members) {before m : KeyMap α} (hfits : ms.Fits)
    (hbefore : ∀ e ∈ before.entries, Again d encode depth e.2)
    (h : Decoder.entries d ⟨.text, depth⟩ before ms = .ok m) :
    ∀ e ∈ m.entries, Again d encode depth e.2 := by
  cases ms with
  | closed =>
      obtain rfl := Except.ok.inj h
      exact hbefore
  | broken f => cases h
  | cons key value tail =>
      rw [Decoder.entries] at h
      obtain ⟨key, -, hafter⟩ := bind_eq_ok.1 h
      obtain ⟨a, hvalue, htail⟩ := bind_eq_ok.1 hafter
      refine entries_again hd hdepth tail hfits.2 ?_ htail
      intro e he
      rcases Entries.mem_insert he with rfl | he
      · exact hd depth value a hdepth hfits.1 hvalue
      · exact hbefore e he

/-- Maps of a stable type are stable. -/
theorem Stable.keyMap {d : Decoder α} {encode : α → Json} (hd : Stable k d encode) :
    Stable (k + 1) d.keyMap (ofKeyMap encode) := by
  intro depth t m hdepth hfits h
  obtain ⟨inner, rfl, hinner⟩ := inner_level hdepth
  cases t with
  | object ms =>
      have hentries : Decoder.entries d ⟨.text, inner⟩ ∅ ms = .ok m := h
      have hnone : ∀ e ∈ (∅ : KeyMap α).entries, Again d encode inner e.2 := by
        intro e he
        cases he
      have hall := entries_again hd hinner ms hfits hnone hentries
      refine ⟨(membersFit_iff _).2 ?_, ?_⟩
      · intro e he
        obtain ⟨e', he', rfl⟩ := List.mem_map.1 he
        exact (hall e' he').fits
      · show Decoder.entries d ⟨.text, inner⟩ ∅
          (Members.ofList (m.entries.map fun e => (e.1, encode e.2))) = _
        rw [entries_ofList hall]
        exact congrArg Except.ok m.ofList_entries
  | _ => cases h

theorem again_emptyMap {d : Decoder α} {encode : α → Json} {depth : Nat} (h : k + 1 ≤ depth) :
    Again d.keyMap (ofKeyMap encode) depth ∅ := by
  obtain ⟨inner, rfl, -⟩ := inner_level h
  exact ⟨trivial, rfl⟩

/-! ## Records -/

/-- What is written of a record builds it again. -/
structure Rebuilds (fields : Fields α) (depth : Nat) (a : α) (parts : List (String × Json)) :
    Prop where
  /-- No more is written than the members, in their order. -/
  names : (parts.map (·.1)).Sublist (fields.members.map Field.name)
  fits : ∀ p ∈ parts, p.2.Fits
  checks : ∀ p ∈ parts, ∀ field ∈ fields.members, field.name = p.1 →
    field.check ⟨.text, depth⟩ (Tree.ofJson p.2) = .ok ()
  /-- It is enough that each member is found as it is written. -/
  builds : ∀ found, (∀ field ∈ fields.members,
      found field.name = (Entries.get? field.name parts).map Tree.ofJson) →
    fields.build ⟨.text, depth⟩ found = .ok a

/-- Whatever is built of trees whose numbers fit has parts of this kind that build it again. -/
def Faithful (k : Nat) (fields : Fields α) (P : α → List (String × Json) → Prop) : Prop :=
  (fields.members.map Field.name).Nodup →
    ∀ depth found a, k ≤ depth → (∀ name t, found name = some t → t.Fits) →
      fields.build ⟨.text, depth⟩ found = .ok a → ∃ parts, P a parts ∧ Rebuilds fields depth a parts

variable {f : Fields (α → β)} {x : Fields α}

/-- Parts of members with different names make parts of all members. -/
theorem Rebuilds.seq {depth : Nat} {g : α → β} {a : α} {ps qs : List (String × Json)}
    (hnames : ((f.seq x).members.map Field.name).Nodup) (hf : Rebuilds f depth g ps)
    (hx : Rebuilds x depth a qs) : Rebuilds (f.seq x) depth (g a) (ps ++ qs) := by
  have hmembers : (f.seq x).members = f.members ++ x.members := rfl
  rw [hmembers, List.map_append] at hnames
  obtain ⟨-, -, hapart⟩ := List.nodup_append.1 hnames
  have hps : ∀ field ∈ x.members, field.name ∉ ps.map (·.1) := fun field hfield hmem =>
    hapart _ (hf.names.subset hmem) _ (List.mem_map_of_mem hfield) rfl
  have hqs : ∀ field ∈ f.members, field.name ∉ qs.map (·.1) := fun field hfield hmem =>
    hapart _ (List.mem_map_of_mem hfield) _ (hx.names.subset hmem) rfl
  refine { names := ?_, fits := ?_, checks := ?_, builds := ?_ }
  · rw [List.map_append, hmembers, List.map_append]
    exact hf.names.append hx.names
  · exact List.forall_mem_append.2 ⟨hf.fits, hx.fits⟩
  · intro p hp field hfield hname
    rcases List.mem_append.1 hp with hp | hp
    · rcases List.mem_append.1 hfield with hfield | hfield
      · exact hf.checks p hp field hfield hname
      · exact absurd (hname ▸ List.mem_map_of_mem hp) (hps field hfield)
    · rcases List.mem_append.1 hfield with hfield | hfield
      · exact absurd (hname ▸ List.mem_map_of_mem hp) (hqs field hfield)
      · exact hx.checks p hp field hfield hname
  · intro found hfound
    have hg : f.build ⟨.text, depth⟩ found = .ok g := by
      refine hf.builds found fun field hfield => ?_
      rw [hfound field (List.mem_append_left _ hfield), Entries.get?_append,
        Entries.get?_eq_none (hqs field hfield), Option.or_none]
    have ha : x.build ⟨.text, depth⟩ found = .ok a := by
      refine hx.builds found fun field hfield => ?_
      rw [hfound field (List.mem_append_right _ hfield), Entries.get?_append,
        Entries.get?_eq_none (hps field hfield), Option.none_or]
    show (do
      let g ← f.build ⟨.text, depth⟩ found
      return g (← x.build ⟨.text, depth⟩ found)) = _
    rw [hg, ha]
    rfl

/-- A description is faithful if its parts are: what is written of the last member goes to the end,
whatever the value of that member is. -/
theorem Faithful.seq {e : α → List (String × Json)} {P : β → List (String × Json) → Prop}
    (hf : Faithful k f fun g ps => ∀ a, P (g a) (ps ++ e a))
    (hx : Faithful k x fun a qs => qs = e a) : Faithful k (f <*> x) P := by
  intro hnames depth found b hdepth hfits h
  have hsplit : (f.members ++ x.members).map Field.name =
      f.members.map Field.name ++ x.members.map Field.name := List.map_append
  have hnodup := hnames
  change ((f.members ++ x.members).map Field.name).Nodup at hnodup
  rw [hsplit, List.nodup_append] at hnodup
  have hbuild : (do
      let g ← f.build ⟨.text, depth⟩ found
      return g (← x.build ⟨.text, depth⟩ found)) = Except.ok b := h
  obtain ⟨g, hg, hafter⟩ := bind_eq_ok.1 hbuild
  obtain ⟨a, ha, hb⟩ := bind_eq_ok.1 hafter
  obtain rfl := Except.ok.inj hb
  obtain ⟨ps, hps, hfirst⟩ := hf hnodup.1 depth found g hdepth hfits hg
  obtain ⟨qs, rfl, hlast⟩ := hx hnodup.2.1 depth found a hdepth hfits ha
  exact ⟨ps ++ e a, hps a, hfirst.seq hnames hlast⟩

theorem Faithful.map {g : α → β} {e : α → List (String × Json)}
    {P : β → List (String × Json) → Prop} (hx : Faithful k x fun a qs => qs = e a)
    (h : ∀ a, P (g a) (e a)) : Faithful k (g <$> x) P := by
  intro hnames depth found b hdepth hfits hbuild
  have hmap : (x.build ⟨.text, depth⟩ found).map g = .ok b := hbuild
  obtain ⟨a, ha, rfl⟩ := map_eq_ok.1 hmap
  obtain ⟨qs, rfl, hrebuilds⟩ := hx hnames depth found a hdepth hfits ha
  refine ⟨e a, h a, { hrebuilds with builds := fun found' hfound => ?_ }⟩
  show (x.build ⟨.text, depth⟩ found').map g = _
  rw [hrebuilds.builds found' hfound]
  rfl

variable {d : Decoder α} {encode : α → Json} {absent : Except Error α} {name : String}
  {hasDefault : Bool}

/-- What a member is built of: the tree that is found, or what stands for an absent one. -/
theorem build_member {depth : Nat} {found : String → Option Tree} {a : α}
    (h : (Fields.member name d absent hasDefault).build ⟨.text, depth⟩ found = .ok a) :
    (∃ t, found name = some t ∧ d ⟨.text, depth⟩ t = .ok a) ∨
      (found name = none ∧ absent = .ok a) := by
  unfold Fields.member at h
  dsimp only at h
  cases hfound : found name with
  | none =>
      rw [hfound] at h
      exact .inr ⟨rfl, h⟩
  | some t =>
      rw [hfound] at h
      exact .inl ⟨t, rfl, h⟩

/-- One part that is decoded again rebuilds a member. -/
theorem rebuilds_written {depth : Nat} {a : α} (h : Again d encode depth a) :
    Rebuilds (.member name d absent hasDefault) depth a (always name (encode a)) := by
  refine { names := List.Sublist.refl _, fits := ?_, checks := ?_, builds := ?_ }
  · intro p hp
    obtain rfl := List.mem_singleton.1 hp
    exact h.fits
  · intro p hp field hfield _
    obtain rfl := List.mem_singleton.1 hp
    obtain rfl := List.mem_singleton.1 hfield
    show (d ⟨.text, depth⟩ (Tree.ofJson (encode a))).map _ = _
    rw [h.decodes]
    rfl
  · intro found hfound
    have hname : found name = some (Tree.ofJson (encode a)) := by
      have hget : Entries.get? name (always name (encode a)) = some (encode a) := by
        simp [always, Entries.get?]
      have hfield := hfound _ (List.mem_singleton_self _)
      rw [hget] at hfield
      exact hfield
    unfold Fields.member
    dsimp only
    rw [hname]
    exact h.decodes

/-- A member that is always written. -/
theorem Faithful.written (hd : Stable k d encode)
    (habsent : ∀ depth a, k ≤ depth → absent = .ok a → Again d encode depth a) :
    Faithful k (.member name d absent hasDefault) fun a ps => ps = always name (encode a) := by
  intro _ depth found a hdepth hfits hbuild
  refine ⟨_, rfl, rebuilds_written ?_⟩
  rcases build_member hbuild with ⟨t, hfound, hdecode⟩ | ⟨-, hok⟩
  · exact hd depth t a hdepth (hfits name t hfound) hdecode
  · exact habsent depth a hdepth hok

theorem Faithful.required (hd : Stable k d encode) :
    Faithful k (.required name d) fun a ps => ps = always name (encode a) :=
  .written hd fun _ _ _ h => by cases h

theorem Faithful.withDefault {default : α} (hd : Stable k d encode)
    (hdefault : ∀ depth, k ≤ depth → Again d encode depth default) :
    Faithful k (.withDefault name d default) fun a ps => ps = always name (encode a) :=
  .written hd fun depth _ hdepth h => Except.ok.inj h ▸ hdefault depth hdepth

/-- What is decoded as a value that is there is decoded of a tree that is not `null`. -/
theorem of_option_some {r : Reading} {t : Tree} {a : α} (h : d.option r t = .ok (some a)) :
    d r t = .ok a := by
  cases t with
  | null => cases h
  | _ =>
      obtain ⟨b, hb, heq⟩ := map_eq_ok.1 h
      rw [hb, Option.some.inj heq]

/-- A value is decoded again as one that is there, unless `null` is written of it. -/
theorem Again.some {depth : Nat} {a : α} (h : Again d encode depth a) (hnull : encode a ≠ .null) :
    Again d.option (fun o => o.elim .null encode) depth (some a) := by
  refine ⟨h.fits, ?_⟩
  have hdecode :
      (d ⟨.text, depth⟩ (Tree.ofJson (encode a))).map Option.some = .ok (Option.some a) :=
    map_eq_ok.2 ⟨a, h.decodes, rfl⟩
  show d.option ⟨.text, depth⟩ (Tree.ofJson (encode a)) = _
  generalize encode a = j at hnull hdecode
  cases j with
  | null => exact absurd rfl hnull
  | _ => exact hdecode

/-- A member that is written if it is there. What is written of it must not be `null`, which would
say that it is not there. -/
theorem Faithful.ifSome (hd : Stable k d encode) (hnull : ∀ a, encode a ≠ .null) :
    Faithful k (.member name d.option (.ok none) hasDefault) fun a ps =>
      ps = whenSome name encode a := by
  intro _ depth found o hdepth hfits hbuild
  refine ⟨_, rfl, ?_⟩
  cases o with
  | none =>
      refine { names := List.nil_sublist _, fits := nofun, checks := nofun, builds := ?_ }
      intro found' hfound
      have hname : found' name = none := hfound _ (List.mem_singleton_self _)
      unfold Fields.member
      dsimp only
      rw [hname]
  | some a =>
      have hagain : Again d encode depth a := by
        rcases build_member hbuild with ⟨t, hfound, hdecode⟩ | ⟨-, hok⟩
        · exact hd depth t a hdepth (hfits name t hfound) (of_option_some hdecode)
        · cases hok
      exact rebuilds_written (hagain.some (hnull a))

theorem Faithful.optional (hd : Stable k d encode) (hnull : ∀ a, encode a ≠ .null) :
    Faithful k (.optional name d) fun a ps => ps = whenSome name encode a := .ifSome hd hnull

theorem Faithful.optionalNamed (hd : Stable k d encode) (hnull : ∀ a, encode a ≠ .null) :
    Faithful k (.optionalNamed name d) fun a ps => ps = whenSome name encode a := .ifSome hd hnull

/-! ## Objects -/

theorem ofMembers_eq (parts : List (String × Json)) :
    ofMembers parts = .object (KeyMap.ofList parts).entries := by
  rw [ofMembers, KeyMap.entries_ofList]

theorem string_ne_null (s : String) : Json.string s ≠ .null := by
  intro h
  cases h

theorem record_ne_null (members : List (List (String × Json))) : record members ≠ .null := by
  intro h
  cases h

/-- Each tree that is found stands in the object. -/
theorem fits_collect {fields : List Field} {r : Reading} (ms : Members)
    {before found : List (String × Tree)} (hfits : ms.Fits)
    (hbefore : ∀ p ∈ before, p.2.Fits) (h : Fields.collect fields r before ms = .ok found) :
    ∀ p ∈ found, p.2.Fits := by
  cases ms with
  | closed =>
      obtain rfl := Except.ok.inj h
      exact hbefore
  | broken f => cases h
  | cons key value tail =>
      rw [Fields.collect] at h
      obtain ⟨key, -, hafter⟩ := bind_eq_ok.1 h
      split at hafter
      · obtain ⟨_, -, htail⟩ := bind_eq_ok.1 hafter
        exact fits_collect tail hfits.2 hbefore htail
      · dsimp only at hafter
        split at hafter
        · cases hafter
        · obtain ⟨_, -, htail⟩ := bind_eq_ok.1 hafter
          exact fits_collect tail hfits.2 (List.forall_mem_cons.2 ⟨hfits.1, hbefore⟩) htail

/-- Each tree that is given to a member stands in the array. -/
theorem fits_assign {fields : List Field} {r : Reading} {is : Items}
    {before found : List (String × Tree)} (hfits : is.Fits)
    (hbefore : ∀ p ∈ before, p.2.Fits) (h : Fields.assign r before fields is = .ok found) :
    ∀ p ∈ found, p.2.Fits := by
  induction fields generalizing before is with
  | nil =>
      cases is with
      | closed =>
          obtain rfl := Except.ok.inj h
          exact hbefore
      | broken f => cases h
      | cons head tail => cases h
  | cons field fields ih =>
      cases is with
      | closed =>
          rw [Fields.assign] at h
          split at h
          · exact ih hfits hbefore h
          · cases h
      | broken f => cases h
      | cons head tail =>
          rw [Fields.assign] at h
          obtain ⟨_, -, htail⟩ := bind_eq_ok.1 h
          exact ih hfits.2 (List.forall_mem_cons.2 ⟨hfits.1, hbefore⟩) htail

/-- Members with different names that pass their checks are all found, the last one first. -/
theorem collect_ofList {fields : List Field} (r : Reading) {ms : List (String × Json)}
    (hnames : ∀ p ∈ ms, ∃ field ∈ fields, field.name = p.1)
    (hchecks : ∀ p ∈ ms, ∀ field ∈ fields, field.name = p.1 →
      field.check r (Tree.ofJson p.2) = .ok ())
    (hnodup : (ms.map (·.1)).Nodup) (before : List (String × Tree))
    (hbefore : ∀ p ∈ ms, p.1 ∉ before.map (·.1)) :
    Fields.collect fields r before (Members.ofList ms) =
      .ok ((ms.map fun p => (p.1, Tree.ofJson p.2)).reverse ++ before) := by
  induction ms generalizing before with
  | nil => rfl
  | cons p ms ih =>
      obtain ⟨key, value⟩ := p
      obtain ⟨hfirst, hrest⟩ := List.nodup_cons.1 hnodup
      obtain ⟨field, hfield, hname⟩ := hnames (key, value) List.mem_cons_self
      have hsome : (fields.find? (·.name = key)).isSome = true :=
        List.find?_isSome.2 ⟨field, hfield, by simpa using hname⟩
      obtain ⟨field, hfind⟩ := Option.isSome_iff_exists.1 hsome
      have hcheck : field.check r (Tree.ofJson value) = .ok () :=
        hchecks (key, value) List.mem_cons_self field (List.mem_of_find?_eq_some hfind)
          (by simpa using List.find?_some hfind)
      have hnew : Entries.get? key before = none :=
        Entries.get?_eq_none (hbefore (key, value) List.mem_cons_self)
      have hkey : Decoder.lift (.ok key : Except Fault String) = .ok key := rfl
      have hmore := ih (fun p hp => hnames p (List.mem_cons_of_mem _ hp))
        (fun p hp => hchecks p (List.mem_cons_of_mem _ hp)) hrest
        ((key, Tree.ofJson value) :: before) ?_
      · simp only [Members.ofList, Fields.collect, hkey, bind, Except.bind, hfind, hnew, hcheck]
        show Fields.collect fields r ((key, Tree.ofJson value) :: before) (Members.ofList ms) = _
        rw [hmore, List.map_cons, List.reverse_cons, List.append_assoc]
        rfl
      · intro p hp hmem
        rcases List.mem_cons.1 hmem with heq | hmem
        · exact hfirst (heq ▸ List.mem_map_of_mem hp)
        · exact hbefore p (List.mem_cons_of_mem _ hp) hmem

/-- The parts of a record, put in order, are the object that builds it again. -/
theorem Rebuilds.decodes {fields : Fields α} {depth : Nat} {a : α} {parts : List (String × Json)}
    (hnames : (fields.members.map Field.name).Nodup) (h : Rebuilds fields depth a parts) :
    fields.decode ⟨.text, depth + 1⟩ (Tree.ofJson (ofMembers parts)) = .ok a := by
  have hparts : (parts.map (·.1)).Nodup := h.names.nodup hnames
  have hmem := KeyMap.mem_ofList_iff hparts
  have hnodup : ((KeyMap.ofList parts).entries.map (·.1)).Nodup := (KeyMap.ofList parts).nodup_keys
  rw [ofMembers_eq]
  generalize (KeyMap.ofList parts).entries = es at hmem hnodup
  have hcollect := collect_ofList ⟨.text, depth⟩
    (fun p hp => List.mem_map.1 (h.names.subset (List.mem_map_of_mem ((hmem p).1 hp))))
    (fun p hp => h.checks p ((hmem p).1 hp)) hnodup [] (by simp)
  have hbuild := h.builds
    (fun name => Entries.get? name ((es.map fun p => (p.1, Tree.ofJson p.2)).reverse ++ [])) ?_
  · show (do
      let found ← Fields.collect fields.members ⟨.text, depth⟩ [] (Members.ofList es)
      fields.build ⟨.text, depth⟩ (Entries.get? · found)) = _
    rw [hcollect]
    exact hbuild
  · intro field hfield
    have hkeys : ((es.map fun p => (p.1, Tree.ofJson p.2)).map (·.1)).Nodup := by
      rw [List.map_map]
      exact hnodup
    have hreverse : ((es.map fun p => (p.1, Tree.ofJson p.2)).reverse.map (·.1)).Nodup := by
      rw [List.map_reverse]
      exact List.pairwise_reverse.2 (hkeys.imp Ne.symm)
    rw [List.append_nil, Entries.get?_congr hreverse hkeys fun e => List.mem_reverse,
      Entries.get?_map, Entries.get?_congr hnodup hparts hmem]

/-- A record is stable if each of its members is. -/
theorem Stable.record {fields : Fields α} {encode : α → Json}
    (hnames : (fields.members.map Field.name).Nodup)
    (h : Faithful k fields fun a parts => encode a = ofMembers parts) :
    Stable (k + 1) fields.decode encode := by
  intro depth t a hdepth hfits hdecode
  obtain ⟨inner, rfl, hinner⟩ := inner_level hdepth
  obtain ⟨found, hfound, hbuild⟩ : ∃ found : List (String × Tree), (∀ p ∈ found, p.2.Fits) ∧
      fields.build ⟨.text, inner⟩ (Entries.get? · found) = .ok a := by
    cases t with
    | object ms =>
        change (do
          let found ← Fields.collect fields.members ⟨.text, inner⟩ [] ms
          fields.build ⟨.text, inner⟩ (Entries.get? · found)) = _ at hdecode
        obtain ⟨found, hcollect, hbuild⟩ := bind_eq_ok.1 hdecode
        exact ⟨found, fits_collect ms hfits (by simp) hcollect, hbuild⟩
    | array is =>
        change (do
          let found ← Fields.assign ⟨.text, inner⟩ [] fields.members is
          fields.build ⟨.text, inner⟩ (Entries.get? · found)) = _ at hdecode
        obtain ⟨found, hassign, hbuild⟩ := bind_eq_ok.1 hdecode
        exact ⟨found, fits_assign hfits (by simp) hassign, hbuild⟩
    | _ => cases hdecode
  obtain ⟨parts, heq, hrebuilds⟩ := h hnames inner (Entries.get? · found) a hinner
    (fun name t hname => hfound _ (Entries.mem_of_get? hname)) hbuild
  refine ⟨?_, ?_⟩
  · rw [heq, ofMembers_eq]
    exact (membersFit_iff _).2 fun p hp => hrebuilds.fits p (KeyMap.mem_of_mem_ofList hp)
  · rw [heq]
    exact hrebuilds.decodes hnames

/-! ## Values without floating-point numbers -/

theorem forall_mem_always {P : String × Json → Prop} {name : String} {value : Json} :
    (∀ p ∈ always name value, P p) ↔ P (name, value) := List.forall_mem_singleton

theorem forall_mem_whenSome {P : String × Json → Prop} {name : String} {encode : α → Json}
    {o : Option α} : (∀ p ∈ whenSome name encode o, P p) ↔ ∀ a ∈ o, P (name, encode a) := by
  cases o with
  | none => simp [whenSome]
  | some a => simp [whenSome]

theorem isFloatFree_record {members : List (List (String × Json))}
    (h : ∀ ps ∈ members, ∀ p ∈ ps, p.2.isFloatFree = true) :
    (record members).isFloatFree = true := by
  rw [record, ofMembers_eq]
  refine (membersFloatFree_iff _).2 fun p hp => ?_
  obtain ⟨ps, hps, hmem⟩ := List.mem_flatten.1 (KeyMap.mem_of_mem_ofList hp)
  exact h ps hps p hmem

theorem isFloatFree_array {encode : α → Json} {as : List α}
    (h : ∀ a ∈ as, (encode a).isFloatFree = true) :
    (Json.array (as.map encode)).isFloatFree = true := by
  refine (areFloatFree_iff _).2 fun j hj => ?_
  obtain ⟨a, ha, rfl⟩ := List.mem_map.1 hj
  exact h a ha

theorem isFloatFree_ofKeyMap {encode : α → Json} {m : KeyMap α}
    (h : ∀ a, (encode a).isFloatFree = true) : (ofKeyMap encode m).isFloatFree = true := by
  refine (membersFloatFree_iff _).2 fun p hp => ?_
  obtain ⟨e, -, rfl⟩ := List.mem_map.1 hp
  exact h e.2

/-! ## Whole texts -/

/-- What a stable type decodes of a text is decoded again from its own text, unless it holds a
floating-point number. -/
theorem Stable.decodeText_render {d : Decoder α} {encode : α → Json} (hd : Stable k d encode)
    (hk : k ≤ maxDepth) {text : String} {a : α} (h : decodeText d text = .ok a)
    (hfree : (encode a).isFloatFree = true) : decodeText d (encode a).render = .ok a := by
  have hroot : d ⟨.text, maxDepth⟩ (read text).root = .ok a := by
    unfold decodeText at h
    obtain ⟨b, hroot, hend⟩ := bind_eq_ok.1 h
    split at hend
    · cases hend
    · rw [hroot, Except.ok.inj hend]
  have hagain := hd maxDepth (read text).root a hk (fits_read text) hroot
  have hread : read (encode a).render = ⟨Tree.ofJson (encode a), false⟩ :=
    read_render ⟨hagain.fits, hfree⟩
  unfold decodeText
  simp only [hread, hagain.decodes, bind, Except.bind]
  rfl

end HostAgent.Json
