import HostAgent.Proofs.Json.Writing

/-!
# What is kept of a text

Whatever the text, the whole numbers of its tree are those of 64 bits, with a
sign or without: a numeral that does not fit is a floating-point number. So the
value that is kept of a tree can be written exactly unless a floating-point number
is in it; and its tree keeps the same value again at the same depth, since its
members are in order and none of its keys occurs twice.

## Main results

* `fits_read`: the numbers of every text fit.
* `Tree.keep_again`: what was kept of a tree is kept of its own tree.
-/

namespace HostAgent.Json

/-! ## Trees whose numbers fit -/

mutual

/-- All whole numbers in a tree fit. -/
def Tree.Fits : Tree → Prop
  | .number (.ok n) => n.Fits
  | .array items => items.Fits
  | .object members => members.Fits
  | _ => True

def Items.Fits : Items → Prop
  | .cons head tail => head.Fits ∧ tail.Fits
  | _ => True

def Members.Fits : Members → Prop
  | .cons _ value tail => value.Fits ∧ tail.Fits
  | _ => True

end

theorem gather_lt {start : Nat} (h : start < twoPow 64) (ds : List Nat) :
    (Numeral.gather start ds).1 < twoPow 64 := by
  induction ds generalizing start with
  | nil => exact h
  | cons d ds ih =>
      rw [Numeral.gather]
      split
      · rename_i hnext
        exact ih hnext
      · exact h

/-- A numeral that is a whole number fits. -/
theorem fits_value (n : Numeral) : (Tree.number n.value).Fits := by
  have hgather := gather_lt (show 0 < twoPow 64 by decide) n.whole
  unfold Numeral.value
  split
  · rename_i v _ _ hv
    rw [hv] at hgather
    split
    · split
      · trivial
      · split
        · rename_i hneg
          exact ⟨by omega, by omega⟩
        · trivial
    · exact ⟨by omega, by omega⟩
  · cases n.floatValue <;> trivial

/-- A string has no numbers. -/
theorem fits_readString (fuel : Nat) (g : Gathered) (cs : List Char) :
    (readString fuel g cs).1.Fits := by
  induction fuel generalizing g cs with
  | zero => trivial
  | succ fuel ih =>
      unfold readString
      repeat' split
      -- either the string ends here, or it is read on with less fuel
      all_goals first
        | trivial
        | (obtain rfl := Nat.succ.inj ‹fuel + 1 = _›
           exact ih _ _)

theorem fits_readExponent (n : Numeral) (cs : List Char) : (readExponent n cs).1.Fits := by
  unfold readExponent
  dsimp only
  split
  · split
    · split
      all_goals
        split
        · trivial
        · exact fits_value _
    · exact fits_value _
  · exact fits_value _

theorem fits_readFraction (n : Numeral) (cs : List Char) : (readFraction n cs).1.Fits := by
  unfold readFraction
  split
  · split
    · trivial
    · exact fits_readExponent _ _
  · exact fits_readExponent _ _

theorem fits_readNumber (cs : List Char) : (readNumber cs).1.Fits := by
  have hunsigned : ∀ negative cs, (readUnsigned negative cs).1.Fits := by
    intro negative cs
    unfold readUnsigned
    split
    · trivial
    · trivial
    · exact fits_readFraction _ _
  cases cs with
  | nil => trivial
  | cons c cs =>
      by_cases hc : c = '-'
      · rw [hc, readNumber_minus]
        exact hunsigned true cs
      · rw [readNumber_plain hc]
        exact hunsigned false (c :: cs)

theorem fits_readWord {value : Tree} (h : value.Fits) (word cs : List Char) :
    (readWord value word cs).1.Fits := by
  induction word generalizing cs with
  | nil => exact h
  | cons w word ih =>
      cases cs with
      | nil => trivial
      | cons c cs =>
          rw [readWord]
          split
          · exact ih cs
          · trivial

/-- With this fuel, whatever is read has numbers that fit. -/
structure FitsWith (fuel : Nat) : Prop where
  value : ∀ cs, (readValue fuel cs).1.Fits
  items : ∀ cs, (readItems fuel cs).1.Fits
  members : ∀ cs, (readMembers fuel cs).1.Fits

theorem FitsWith.of_eq {fuel : Nat} (h : FitsWith fuel) {cs : List Char} {tree : Tree}
    {after : Option (List Char)} (heq : readValue fuel cs = (tree, after)) : tree.Fits := by
  have hvalue := h.value cs
  rwa [heq] at hvalue

theorem fits_readValue {fuel : Nat} (ih : FitsWith fuel) (cs : List Char) :
    (readValue (fuel + 1) cs).1.Fits := by
  have hnull : Tree.null.Fits := trivial
  have hbool : ∀ b, (Tree.bool b).Fits := fun _ => trivial
  unfold readValue
  split
  · trivial
  · exact fits_readString _ _ _
  · exact fits_readWord hnull _ _
  · exact fits_readWord (hbool true) _ _
  · exact fits_readWord (hbool false) _ _
  · split
    · trivial
    · trivial
    · exact ih.items _
  · split
    · trivial
    · exact ih.members _
  · split
    · exact fits_readNumber _
    · trivial

theorem fits_readItems {fuel : Nat} (ih : FitsWith fuel) (cs : List Char) :
    (readItems (fuel + 1) cs).1.Fits := by
  unfold readItems
  split
  · rename_i heq
    exact ⟨ih.of_eq heq, trivial⟩
  · rename_i heq
    have hhead := ih.of_eq heq
    split
    · exact ⟨hhead, trivial⟩
    · exact ⟨hhead, trivial⟩
    · exact ⟨hhead, ih.items _⟩
    · exact ⟨hhead, trivial⟩

theorem fits_readMembers {fuel : Nat} (ih : FitsWith fuel) (cs : List Char) :
    (readMembers (fuel + 1) cs).1.Fits := by
  unfold readMembers
  split
  · trivial
  · split
    · split
      · exact ⟨trivial, trivial⟩
      · split
        · rename_i heq
          exact ⟨ih.of_eq heq, trivial⟩
        · rename_i heq
          have hvalue := ih.of_eq heq
          split
          · exact ⟨hvalue, trivial⟩
          · exact ⟨hvalue, trivial⟩
          · exact ⟨hvalue, ih.members _⟩
          · exact ⟨hvalue, trivial⟩
      · exact ⟨trivial, trivial⟩
    · exact ⟨trivial, trivial⟩
    · trivial
  · trivial

theorem fitsWith (fuel : Nat) : FitsWith fuel := by
  induction fuel with
  | zero => exact ⟨fun _ => trivial, fun _ => trivial, fun _ => trivial⟩
  | succ fuel ih => exact ⟨fits_readValue ih, fits_readItems ih, fits_readMembers ih⟩

/-- Whatever the text, its numbers fit. -/
theorem fits_read (text : String) : (read text).root.Fits := by
  unfold read
  dsimp only
  split
  all_goals
    rename_i heq
    exact (fitsWith _).of_eq heq

/-! ## Kept values -/

/-- A sequence succeeds if its first part does, and its second part with what the first one gave. -/
theorem bind_eq_ok {ε α β : Type} {x : Except ε α} {f : α → Except ε β} {b : β} :
    x >>= f = .ok b ↔ ∃ a, x = .ok a ∧ f a = .ok b := by
  cases x with
  | error e => exact ⟨nofun, nofun⟩
  | ok a => exact ⟨fun h => ⟨a, rfl, h⟩, fun ⟨_, ha, h⟩ => Except.ok.inj ha ▸ h⟩

theorem map_eq_ok {ε α β : Type} {x : Except ε α} {f : α → β} {b : β} :
    x.map f = .ok b ↔ ∃ a, x = .ok a ∧ f a = b := by
  cases x with
  | error e => exact ⟨nofun, nofun⟩
  | ok a => exact ⟨fun h => ⟨a, rfl, Except.ok.inj h⟩, fun ⟨_, ha, h⟩ => by rw [ha, ← h]; rfl⟩

/-- The members of an object that is kept once more. -/
theorem keep_ofList {depth : Nat} {es : List (String × Json)}
    (h : ∀ e ∈ es, (Tree.ofJson e.2).keep depth = .ok e.2) (before : List (String × Json)) :
    (Members.ofList es).keep depth before =
      .ok (es.foldl (fun es e => Entries.insert e.1 e.2 es) before) := by
  induction es generalizing before with
  | nil => rfl
  | cons e es ih =>
      obtain ⟨key, value⟩ := e
      have hvalue : (Tree.ofJson value).keep depth = .ok value := h (key, value) List.mem_cons_self
      have hrest :=
        ih (fun e he => h e (List.mem_cons_of_mem _ he)) (Entries.insert key value before)
      show (do
        let value ← (Tree.ofJson value).keep depth
        (Members.ofList es).keep depth (Entries.insert key value before)) = _
      rw [hvalue]
      exact hrest

/-- A value that fits and is kept of its own tree. -/
structure Kept (depth : Nat) (j : Json) : Prop where
  fits : j.Fits
  again : (Tree.ofJson j).keep depth = .ok j

-- The three theorems follow the three kinds of trees; the members that were found before go along,
-- as a later one of a key takes the place of an earlier one.
mutual

/-- What was kept of a tree is kept of its own tree. -/
theorem Tree.keep_again (t : Tree) (hfits : t.Fits) (depth : Nat) (j : Json)
    (h : t.keep depth = .ok j) : Kept depth j := by
  cases t with
  | null =>
      obtain rfl := Except.ok.inj h
      exact ⟨trivial, rfl⟩
  | bool b =>
      obtain rfl := Except.ok.inj h
      exact ⟨trivial, rfl⟩
  | number kept =>
      cases kept with
      | error f => cases h
      | ok n =>
          obtain rfl := Except.ok.inj h
          exact ⟨hfits, rfl⟩
  | string kept skipped =>
      cases kept with
      | error f => cases h
      | ok s =>
          obtain rfl := Except.ok.inj h
          exact ⟨trivial, rfl⟩
  | torn kept skipped => cases h
  | nothing fault => cases h
  | array items =>
      cases depth with
      | zero => cases h
      | succ depth =>
          rw [Tree.keep] at h
          obtain ⟨js, hitems, hj⟩ := bind_eq_ok.1 h
          obtain rfl := Except.ok.inj hj
          obtain ⟨hall, hagain⟩ := items.keep_again hfits depth js hitems
          refine ⟨(itemsFit_iff js).2 hall, ?_⟩
          rw [Tree.ofJson, Tree.keep, hagain]
          rfl
  | object members =>
      cases depth with
      | zero => cases h
      | succ depth =>
          rw [Tree.keep] at h
          obtain ⟨es, hmembers, hj⟩ := bind_eq_ok.1 h
          obtain rfl := Except.ok.inj hj
          obtain ⟨hsorted, hall⟩ :=
            members.keep_again hfits depth [] es List.Pairwise.nil (by simp) hmembers
          have hsame : es.foldl (fun es e => Entries.insert e.1 e.2 es) [] = es :=
            Entries.foldl_insert_sorted hsorted
          refine ⟨(membersFit_iff es).2 fun e he => (hall e he).fits, ?_⟩
          rw [Tree.ofJson, Tree.keep, keep_ofList (fun e he => (hall e he).again) [], hsame]
          rfl

theorem Items.keep_again (is : Items) (hfits : is.Fits) (depth : Nat) (js : List Json)
    (h : is.keep depth = .ok js) :
    (∀ j ∈ js, j.Fits) ∧ (Items.ofList js).keep depth = .ok js := by
  cases is with
  | closed =>
      obtain rfl := Except.ok.inj h
      exact ⟨by simp, rfl⟩
  | broken fault => cases h
  | cons head tail =>
      rw [Items.keep] at h
      obtain ⟨j, hhead, hrest⟩ := bind_eq_ok.1 h
      obtain ⟨js, htail, hjs⟩ := bind_eq_ok.1 hrest
      obtain rfl := Except.ok.inj hjs
      have hkept := head.keep_again hfits.1 depth j hhead
      obtain ⟨hall, hagain⟩ := tail.keep_again hfits.2 depth js htail
      refine ⟨List.forall_mem_cons.2 ⟨hkept.fits, hall⟩, ?_⟩
      rw [Items.ofList, Items.keep, hkept.again, hagain]
      rfl

theorem Members.keep_again (ms : Members) (hfits : ms.Fits) (depth : Nat)
    (before es : List (String × Json)) (hsorted : Entries.Sorted before)
    (hbefore : ∀ e ∈ before, Kept depth e.2) (h : ms.keep depth before = .ok es) :
    Entries.Sorted es ∧ ∀ e ∈ es, Kept depth e.2 := by
  cases ms with
  | closed =>
      obtain rfl := Except.ok.inj h
      exact ⟨hsorted, hbefore⟩
  | broken fault => cases h
  | cons key value tail =>
      rw [Members.keep] at h
      obtain ⟨key, -, hrest⟩ := bind_eq_ok.1 h
      obtain ⟨j, hvalue, htail⟩ := bind_eq_ok.1 hrest
      have hkept := value.keep_again hfits.1 depth j hvalue
      refine tail.keep_again hfits.2 depth (Entries.insert key j before) es
        (Entries.sorted_insert hsorted key j) ?_ htail
      intro e he
      rcases Entries.mem_insert he with rfl | he
      · exact hkept
      · exact hbefore e he

end

end HostAgent.Json
