/-!
# Maps with text keys in key order

A `KeyMap` holds its entries in strictly increasing order of their keys, the
order in which such maps are written. Two maps with the same entries are equal,
so a map that is written and read again is the map itself. The order of texts is
by code point, which is also the byte order of their UTF-8 form.

## Main results

* `KeyMap.get?_insert`, `KeyMap.get?_erase`: look-up after each operation.
* `KeyMap.get?_eq_some_iff`, `KeyMap.mem_keys_iff`: entries and keys through look-up.
* `KeyMap.get?_ofList`: of the entries that are put in, the last one of a key is found.
* `KeyMap.ext_get?`: a map is determined by its look-ups.
* `KeyMap.ofList_entries`: a map is what its entries make.
-/

namespace HostAgent

/-! ## Entry lists -/

namespace Entries

variable {α : Type}

/-- Keys strictly increase. -/
def Sorted (es : List (String × α)) : Prop :=
  es.Pairwise fun a b => a.1 < b.1

/-- Put `value` at `key`, in order; a value already there is replaced. -/
def insert (key : String) (value : α) : List (String × α) → List (String × α)
  | [] => [(key, value)]
  | (k, v) :: rest =>
    if key < k then (key, value) :: (k, v) :: rest
    else if key = k then (key, value) :: rest
    else (k, v) :: insert key value rest

/-- The value of the first entry with this key. -/
def get? (key : String) : List (String × α) → Option α
  | [] => none
  | (k, v) :: rest => if key = k then some v else get? key rest

/-- Without the entries of this key. -/
def erase (key : String) (es : List (String × α)) : List (String × α) :=
  es.filter fun e => e.1 ≠ key

theorem lt_of_not_lt_of_ne {a b : String} (h : ¬ a < b) (hne : a ≠ b) : b < a := by
  by_cases hba : b < a
  · exact hba
  · exact absurd (String.le_antisymm (String.not_lt.1 hba) (String.not_lt.1 h)) hne

theorem mem_insert {key : String} {value : α} {es : List (String × α)} {e : String × α}
    (h : e ∈ insert key value es) : e = (key, value) ∨ e ∈ es := by
  induction es with
  | nil => simpa [insert] using h
  | cons head rest ih =>
    obtain ⟨k, v⟩ := head
    unfold insert at h
    split at h
    · simpa using h
    · split at h
      · rcases List.mem_cons.1 h with h | h
        · exact .inl h
        · exact .inr (List.mem_cons_of_mem _ h)
      · rcases List.mem_cons.1 h with h | h
        · exact .inr (h ▸ List.mem_cons_self)
        · rcases ih h with h | h
          · exact .inl h
          · exact .inr (List.mem_cons_of_mem _ h)

theorem sorted_insert {es : List (String × α)} (hs : Sorted es) (key : String) (value : α) :
    Sorted (insert key value es) := by
  induction es with
  | nil => simp [insert, Sorted]
  | cons head rest ih =>
    obtain ⟨k, v⟩ := head
    have hrest := List.pairwise_cons.1 hs
    unfold insert
    split
    · rename_i hlt
      refine List.pairwise_cons.2 ⟨?_, hs⟩
      intro e he
      rcases List.mem_cons.1 he with rfl | he
      · exact hlt
      · exact String.lt_trans hlt (hrest.1 e he)
    · split
      · rename_i _ heq
        subst heq
        exact List.pairwise_cons.2 ⟨hrest.1, hrest.2⟩
      · rename_i hlt hne
        refine List.pairwise_cons.2 ⟨?_, ih hrest.2⟩
        intro e he
        rcases mem_insert he with rfl | he
        · exact lt_of_not_lt_of_ne hlt hne
        · exact hrest.1 e he

theorem sorted_erase {es : List (String × α)} (hs : Sorted es) (key : String) :
    Sorted (erase key es) :=
  List.Pairwise.filter _ hs

theorem get?_insert {es : List (String × α)} (key other : String) (value : α) :
    get? other (insert key value es) = if other = key then some value else get? other es := by
  induction es with
  | nil => simp [insert, get?]
  | cons head rest ih =>
    obtain ⟨k, v⟩ := head
    unfold insert
    split
    · by_cases h : other = key <;> simp [get?, h]
    · split
      · rename_i _ heq
        subst heq
        by_cases h : other = key <;> simp [get?, h]
      · rename_i _ hne
        by_cases hk : other = k
        · subst hk
          simp [get?, Ne.symm hne]
        · simp [get?, hk, ih]

theorem get?_erase {es : List (String × α)} (key other : String) :
    get? other (erase key es) = if other = key then none else get? other es := by
  induction es with
  | nil => simp [erase, get?]
  | cons head rest ih =>
    obtain ⟨k, v⟩ := head
    simp only [erase] at ih
    by_cases hk : k = key
    · subst hk
      by_cases h : other = k
      · subst h; simpa [erase, get?] using ih
      · simpa [erase, get?, h] using ih
    · by_cases h : other = k
      · subst h; simp [erase, get?, hk]
      · simpa [erase, get?, hk, h] using ih

theorem get?_append (key : String) (ps qs : List (String × α)) :
    get? key (ps ++ qs) = (get? key ps).or (get? key qs) := by
  induction ps with
  | nil => rfl
  | cons p ps ih =>
    obtain ⟨name, a⟩ := p
    rw [List.cons_append, get?, get?]
    by_cases hkey : key = name
    · rw [if_pos hkey, if_pos hkey]
      rfl
    · rw [if_neg hkey, if_neg hkey, ih]

theorem get?_eq_none {key : String} {ps : List (String × α)} (h : key ∉ ps.map (·.1)) :
    get? key ps = none := by
  induction ps with
  | nil => rfl
  | cons p ps ih =>
    obtain ⟨name, a⟩ := p
    rw [List.map_cons, List.mem_cons, not_or] at h
    rw [get?, if_neg h.1]
    exact ih h.2

theorem mem_of_get? {key : String} {value : α} {es : List (String × α)}
    (h : get? key es = some value) : (key, value) ∈ es := by
  induction es with
  | nil => cases h
  | cons e es ih =>
    obtain ⟨name, a⟩ := e
    rw [get?] at h
    split at h
    · rename_i heq
      rw [heq, Option.some.inj h]
      exact List.mem_cons_self
    · exact List.mem_cons_of_mem _ (ih h)

/-- Where no key occurs twice, look-up finds every entry. -/
theorem get?_of_mem {key : String} {value : α} {es : List (String × α)}
    (hnodup : (es.map (·.1)).Nodup) (h : (key, value) ∈ es) : get? key es = some value := by
  induction es with
  | nil => cases h
  | cons e es ih =>
    obtain ⟨name, a⟩ := e
    obtain ⟨hfirst, hrest⟩ := List.nodup_cons.1 hnodup
    rw [get?]
    rcases List.mem_cons.1 h with heq | hmem
    · obtain ⟨rfl, rfl⟩ := Prod.mk.inj heq
      rw [if_pos rfl]
    · have hne : key ≠ name := fun heq =>
        hfirst (List.mem_map.2 ⟨(key, value), hmem, heq⟩)
      rw [if_neg hne]
      exact ih hrest hmem

/-- Where no key occurs twice, the order of the entries does not matter. -/
theorem get?_congr {key : String} {es fs : List (String × α)} (hes : (es.map (·.1)).Nodup)
    (hfs : (fs.map (·.1)).Nodup) (h : ∀ e, e ∈ es ↔ e ∈ fs) : get? key es = get? key fs := by
  refine Option.ext fun value => ?_
  constructor
  · intro hes'
    exact get?_of_mem hfs ((h _).1 (mem_of_get? hes'))
  · intro hfs'
    exact get?_of_mem hes ((h _).2 (mem_of_get? hfs'))

theorem get?_map {β : Type} (f : α → β) (key : String) (es : List (String × α)) :
    get? key (es.map fun e => (e.1, f e.2)) = (get? key es).map f := by
  induction es with
  | nil => rfl
  | cons e es ih =>
    obtain ⟨name, a⟩ := e
    rw [List.map_cons, get?, get?, ih]
    split <;> rfl

theorem get?_eq_none_of_lt {es : List (String × α)} {key : String}
    (h : ∀ e ∈ es, key < e.1) : get? key es = none := by
  induction es with
  | nil => rfl
  | cons head rest ih =>
    have hne : key ≠ head.1 := fun he =>
      absurd (h head List.mem_cons_self) (he ▸ String.lt_irrefl _)
    obtain ⟨k, v⟩ := head
    simp only [get?, if_neg hne]
    exact ih fun e he => h e (List.mem_cons_of_mem _ he)

theorem get?_eq_some_iff {es : List (String × α)} (hs : Sorted es) (key : String) (value : α) :
    get? key es = some value ↔ (key, value) ∈ es := by
  induction es with
  | nil => simp [get?]
  | cons head rest ih =>
    obtain ⟨k, v⟩ := head
    have hrest := List.pairwise_cons.1 hs
    by_cases hk : key = k
    · subst hk
      have hnone : ∀ w, (key, w) ∉ rest := fun w h => String.lt_irrefl _ (hrest.1 (key, w) h)
      simp [get?, hnone, eq_comm]
    · simp [get?, hk, ih hrest.2]

theorem nodup_keys {es : List (String × α)} (hs : Sorted es) : (es.map (·.1)).Nodup := by
  refine List.pairwise_map.2 (hs.imp ?_)
  intro a b hlt heq
  exact String.lt_irrefl _ (heq ▸ hlt)

theorem ext_get? {es fs : List (String × α)} (hes : Sorted es) (hfs : Sorted fs)
    (h : ∀ key, get? key es = get? key fs) : es = fs := by
  induction es generalizing fs with
  | nil =>
    cases fs with
    | nil => rfl
    | cons head rest => simpa [get?] using h head.1
  | cons head rest ih =>
    obtain ⟨k, v⟩ := head
    cases fs with
    | nil => simpa [get?] using h k
    | cons head' rest' =>
      obtain ⟨k', v'⟩ := head'
      have h1 := List.pairwise_cons.1 hes
      have h2 := List.pairwise_cons.1 hfs
      have hkk : k = k' := by
        by_cases hlt : k < k'
        · have := h k
          rw [@get?_eq_none_of_lt _ ((k', v') :: rest')] at this
          · simp [get?] at this
          · intro e he
            rcases List.mem_cons.1 he with rfl | he
            · exact hlt
            · exact String.lt_trans hlt (h2.1 e he)
        · by_cases heq : k = k'
          · exact heq
          · have hlt' := lt_of_not_lt_of_ne hlt heq
            have := h k'
            rw [@get?_eq_none_of_lt _ ((k, v) :: rest)] at this
            · simp [get?] at this
            · intro e he
              rcases List.mem_cons.1 he with rfl | he
              · exact hlt'
              · exact String.lt_trans hlt' (h1.1 e he)
      subst hkk
      have hv : v = v' := by simpa [get?] using h k
      subst hv
      have : rest = rest' := by
        refine ih h1.2 h2.2 fun key => ?_
        by_cases hk : key = k
        · subst hk
          rw [get?_eq_none_of_lt h1.1, get?_eq_none_of_lt h2.1]
        · simpa [get?, hk] using h key
      rw [this]

/-- A key above all others goes to the end. -/
theorem insert_above {es : List (String × α)} {key : String} (value : α)
    (h : ∀ e ∈ es, e.1 < key) : insert key value es = es ++ [(key, value)] := by
  induction es with
  | nil => rfl
  | cons head rest ih =>
    obtain ⟨k, v⟩ := head
    have hlt : k < key := h (k, v) List.mem_cons_self
    have hnot : ¬ key < k := fun hgt => String.lt_irrefl _ (String.lt_trans hlt hgt)
    have hne : key ≠ k := fun heq => String.lt_irrefl _ (heq ▸ hlt)
    rw [insert, if_neg hnot, if_neg hne, ih fun e he => h e (List.mem_cons_of_mem _ he)]
    rfl

/-- Entries that are sorted already stay as they are when they are put in again. -/
theorem foldl_insert_sorted {before es : List (String × α)} (h : Sorted (before ++ es)) :
    es.foldl (fun es e => insert e.1 e.2 es) before = before ++ es := by
  induction es generalizing before with
  | nil => exact (List.append_nil before).symm
  | cons e es ih =>
    have habove : ∀ b ∈ before, b.1 < e.1 := fun b hb =>
      (List.pairwise_append.1 h).2.2 b hb e List.mem_cons_self
    have hsplit : before ++ e :: es = before ++ [e] ++ es := by
      rw [List.append_assoc]
      rfl
    rw [hsplit] at h ⊢
    rw [List.foldl_cons, insert_above e.2 habove]
    exact ih h

end Entries

/-! ## The map -/

/-- Entries in strictly increasing key order. -/
structure KeyMap (α : Type) where
  entries : List (String × α)
  sorted : Entries.Sorted entries

namespace KeyMap

variable {α : Type}

def empty : KeyMap α := ⟨[], List.Pairwise.nil⟩

instance : EmptyCollection (KeyMap α) := ⟨empty⟩
instance : Inhabited (KeyMap α) := ⟨empty⟩

def insert (m : KeyMap α) (key : String) (value : α) : KeyMap α :=
  ⟨Entries.insert key value m.entries, Entries.sorted_insert m.sorted key value⟩

def erase (m : KeyMap α) (key : String) : KeyMap α :=
  ⟨Entries.erase key m.entries, Entries.sorted_erase m.sorted key⟩

def get? (m : KeyMap α) (key : String) : Option α := Entries.get? key m.entries

def contains (m : KeyMap α) (key : String) : Bool := (m.get? key).isSome

def keys (m : KeyMap α) : List String := m.entries.map (·.1)

def values (m : KeyMap α) : List α := m.entries.map (·.2)

def size (m : KeyMap α) : Nat := m.entries.length

/-- Entries put in one after another: of two with one key, the later stays. -/
def ofList (es : List (String × α)) : KeyMap α :=
  es.foldl (fun m e => m.insert e.1 e.2) empty

@[ext] theorem ext {m n : KeyMap α} (h : m.entries = n.entries) : m = n := by
  cases m; cases n; cases h; rfl

@[simp] theorem get?_empty (key : String) : (∅ : KeyMap α).get? key = none := rfl

@[simp] theorem get?_insert (m : KeyMap α) (key other : String) (value : α) :
    (m.insert key value).get? other = if other = key then some value else m.get? other :=
  Entries.get?_insert key other value

@[simp] theorem get?_erase (m : KeyMap α) (key other : String) :
    (m.erase key).get? other = if other = key then none else m.get? other :=
  Entries.get?_erase key other

theorem contains_insert (m : KeyMap α) (key other : String) (value : α) :
    (m.insert key value).contains other = (decide (other = key) || m.contains other) := by
  by_cases h : other = key <;> simp [contains, h]

theorem contains_erase (m : KeyMap α) (key other : String) :
    (m.erase key).contains other = (!decide (other = key) && m.contains other) := by
  by_cases h : other = key <;> simp [contains, h]

theorem get?_eq_some_iff (m : KeyMap α) (key : String) (value : α) :
    m.get? key = some value ↔ (key, value) ∈ m.entries :=
  Entries.get?_eq_some_iff m.sorted key value

theorem nodup_keys (m : KeyMap α) : m.keys.Nodup := Entries.nodup_keys m.sorted

theorem mem_keys_iff (m : KeyMap α) (key : String) : key ∈ m.keys ↔ ∃ v, m.get? key = some v := by
  simp [keys, get?_eq_some_iff]

theorem ext_get? {m n : KeyMap α} (h : ∀ key, m.get? key = n.get? key) : m = n :=
  ext (Entries.ext_get? m.sorted n.sorted h)

theorem erase_insert (m : KeyMap α) (key : String) (value : α) :
    (m.insert key value).erase key = m.erase key := by
  refine ext_get? fun other => ?_
  by_cases h : other = key <;> simp [h]

theorem insert_insert (m : KeyMap α) (key : String) (value value' : α) :
    (m.insert key value).insert key value' = m.insert key value' := by
  refine ext_get? fun other => ?_
  by_cases h : other = key <;> simp [h]

theorem erase_erase (m : KeyMap α) (key : String) : (m.erase key).erase key = m.erase key := by
  refine ext_get? fun other => ?_
  by_cases h : other = key <;> simp [h]

/-- Nothing changes if a value is put where it is already. -/
theorem insert_of_get? {m : KeyMap α} {key : String} {value : α} (h : m.get? key = some value) :
    m.insert key value = m := by
  refine ext_get? fun other => ?_
  by_cases hkey : other = key <;> simp [hkey, h]

/-- Nothing changes if a key is taken out that is not there. -/
theorem erase_of_get? {m : KeyMap α} {key : String} (h : m.get? key = none) : m.erase key = m := by
  refine ext_get? fun other => ?_
  by_cases hkey : other = key <;> simp [hkey, h]

/-- Of entries put in one after another, look-up finds the last one of the key. -/
theorem get?_ofList (es : List (String × α)) (key : String) :
    (ofList es).get? key = (es.reverse.find? (·.1 = key)).map (·.2) := by
  rw [ofList, List.foldl_eq_foldr_reverse]
  induction es.reverse with
  | nil => rfl
  | cons e es ih =>
    rw [List.foldr_cons, get?_insert, List.find?_cons, ih]
    by_cases hkey : key = e.1
    · simp [hkey]
    · simp [hkey, Ne.symm hkey]

theorem mem_of_get?_ofList {es : List (String × α)} {key : String} {value : α}
    (h : (ofList es).get? key = some value) : (key, value) ∈ es := by
  rw [get?_ofList, Option.map_eq_some_iff] at h
  obtain ⟨e, hfind, rfl⟩ := h
  obtain rfl : e.1 = key := by simpa using List.find?_some hfind
  exact List.mem_reverse.1 (List.mem_of_find?_eq_some hfind)

theorem exists_get?_ofList {es : List (String × α)} {key : String} {value : α}
    (h : (key, value) ∈ es) : ∃ v, (ofList es).get? key = some v := by
  have hfound : (es.reverse.find? (·.1 = key)).isSome = true :=
    List.find?_isSome.2 ⟨_, List.mem_reverse.2 h, by simp⟩
  obtain ⟨e, he⟩ := Option.isSome_iff_exists.1 hfound
  exact ⟨e.2, by rw [get?_ofList, he, Option.map_some]⟩

/-- An entry is found if no later one has its key. -/
theorem get?_ofList_of_last {before after : List (String × α)} {key : String} {value : α}
    (h : ∀ e ∈ after, e.1 ≠ key) :
    (ofList (before ++ (key, value) :: after)).get? key = some value := by
  have hafter : after.reverse.find? (·.1 = key) = none := by
    rw [List.find?_eq_none]
    intro e he
    simpa using h e (List.mem_reverse.1 he)
  simp [get?_ofList, hafter]

theorem entries_ofList (es : List (String × α)) :
    (ofList es).entries = es.foldl (fun es e => Entries.insert e.1 e.2 es) [] := by
  have hall : ∀ (es : List (String × α)) (m : KeyMap α),
      (es.foldl (fun m e => m.insert e.1 e.2) m).entries =
        es.foldl (fun es e => Entries.insert e.1 e.2 es) m.entries := by
    intro es
    induction es with
    | nil => exact fun _ => rfl
    | cons e es ih => exact fun m => ih (m.insert e.1 e.2)
  exact hall es empty

/-- A map is what its entries make. -/
theorem ofList_entries (m : KeyMap α) : ofList m.entries = m := by
  refine ext ?_
  rw [entries_ofList]
  exact Entries.foldl_insert_sorted m.sorted

theorem mem_of_mem_ofList {es : List (String × α)} {e : String × α} (h : e ∈ (ofList es).entries) :
    e ∈ es := mem_of_get?_ofList ((get?_eq_some_iff _ e.1 e.2).2 h)

/-- Entries with different keys all stay. -/
theorem mem_ofList_iff {es : List (String × α)} (hnodup : (es.map (·.1)).Nodup)
    (e : String × α) : e ∈ (ofList es).entries ↔ e ∈ es := by
  refine ⟨mem_of_mem_ofList, fun h => ?_⟩
  obtain ⟨value, hvalue⟩ := exists_get?_ofList (show (e.1, e.2) ∈ es from h)
  have hsame := Entries.get?_of_mem hnodup (mem_of_get?_ofList hvalue)
  rw [Entries.get?_of_mem hnodup h] at hsame
  exact (get?_eq_some_iff _ e.1 e.2).1 (Option.some.inj hsame ▸ hvalue)

instance [DecidableEq α] : DecidableEq (KeyMap α) := fun m n =>
  decidable_of_iff (m.entries = n.entries) ⟨ext, fun h => h ▸ rfl⟩

instance [Repr α] : Repr (KeyMap α) := ⟨fun m n => reprPrec m.entries n⟩

end KeyMap

end HostAgent
