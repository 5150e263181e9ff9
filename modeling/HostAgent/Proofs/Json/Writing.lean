import HostAgent.Proofs.Json.Lexemes

/-!
# What is written is read back

The text of a value is read as the tree of the value, if all its numbers are
whole numbers of at most 64 bits. Reading goes through the text with fuel, which
is used up by one for each value and for each further item or member; as each of
them takes a character of its own and a mark behind it, twice the length of the
text is enough.

## Main results

* `readItems_chars`, `readMembers_chars`: what stands in brackets is read back.
* `readsAs_of_exact`: a value is read back wherever it stands.
* `read_render`: a whole text is read back.
-/

namespace HostAgent.Json

/-! ## Values -/

mutual

/-- All whole numbers in a value fit. -/
def Fits : Json → Prop
  | .number n => n.Fits
  | .array items => ItemsFit items
  | .object members => MembersFit members
  | _ => True

def ItemsFit : List Json → Prop
  | [] => True
  | item :: rest => item.Fits ∧ ItemsFit rest

def MembersFit : List (String × Json) → Prop
  | [] => True
  | (_, value) :: rest => value.Fits ∧ MembersFit rest

end

/-- A value is written exactly if all its numbers are whole numbers that fit. -/
structure IsExact (j : Json) : Prop where
  fits : j.Fits
  floatFree : j.isFloatFree = true

theorem itemsFit_iff (items : List Json) : ItemsFit items ↔ ∀ j ∈ items, j.Fits := by
  induction items with
  | nil => simp [ItemsFit]
  | cons item rest ih => simp [ItemsFit, ih]

theorem membersFit_iff (members : List (String × Json)) :
    MembersFit members ↔ ∀ m ∈ members, m.2.Fits := by
  induction members with
  | nil => simp [MembersFit]
  | cons m rest ih => simp [MembersFit, ih]

theorem areFloatFree_iff (items : List Json) :
    areFloatFree items = true ↔ ∀ j ∈ items, j.isFloatFree = true := by
  induction items with
  | nil => simp [areFloatFree]
  | cons item rest ih => simp [areFloatFree, ih]

theorem membersFloatFree_iff (members : List (String × Json)) :
    membersFloatFree members = true ↔ ∀ m ∈ members, m.2.isFloatFree = true := by
  induction members with
  | nil => simp [membersFloatFree]
  | cons m rest ih => simp [membersFloatFree, ih]

theorem isExact_array (items : List Json) :
    (Json.array items).IsExact ↔ ∀ j ∈ items, j.IsExact := by
  constructor
  · rintro ⟨hfits, hfree⟩ j hj
    exact ⟨(itemsFit_iff items).1 hfits j hj, (areFloatFree_iff items).1 hfree j hj⟩
  · intro h
    exact ⟨(itemsFit_iff items).2 fun j hj => (h j hj).fits,
      (areFloatFree_iff items).2 fun j hj => (h j hj).floatFree⟩

theorem isExact_object (members : List (String × Json)) :
    (Json.object members).IsExact ↔ ∀ m ∈ members, m.2.IsExact := by
  constructor
  · rintro ⟨hfits, hfree⟩ m hm
    exact ⟨(membersFit_iff members).1 hfits m hm, (membersFloatFree_iff members).1 hfree m hm⟩
  · intro h
    exact ⟨(membersFit_iff members).2 fun m hm => (h m hm).fits,
      (membersFloatFree_iff members).2 fun m hm => (h m hm).floatFree⟩

theorem readValue_numeral {c : Char} (hc : StartsNumeral c) (fuel : Nat) (cs : List Char) :
    readValue (fuel + 1) (c :: cs) = readNumber (c :: cs) := by
  have hskip : skipSpace (c :: cs) = c :: cs := skipSpace_cons hc.not_space cs
  have hfirst : ∀ {d rest}, c :: cs = d :: rest → d ≠ '-' → isDigit d = false → False :=
    fun heq hminus hdigit => hc.ne hminus hdigit (List.cons.inj heq).1
  unfold readValue
  rw [hskip]
  split
  case h_8 heq =>
    obtain ⟨rfl, rfl⟩ := List.cons.inj heq
    have hcond : (c == '-' || isDigit c) = true := by
      rcases hc with rfl | hdigit
      · rfl
      · rw [hdigit, Bool.or_true]
    rw [if_pos hcond]
  case h_1 heq => cases heq
  all_goals
    rename_i heq
    exact (hfirst heq (by decide) (by decide)).elim

/-- No value starts with a blank or with a bracket that closes. -/
theorem toChars_head (j : Json) (h : j.isFloatFree = true) :
    ∃ c cs, j.toChars = c :: cs ∧ isSpace c = false ∧ c ≠ ']' ∧ c ≠ '\x7d' := by
  cases j with
  | null => exact ⟨'n', _, rfl, by decide⟩
  | bool b => cases b <;> exact ⟨_, _, rfl, by decide⟩
  | string s => exact ⟨'"', _, rfl, by decide⟩
  | array items => cases items <;> exact ⟨'[', _, rfl, by decide⟩
  | object members => cases members <;> exact ⟨'\x7b', _, rfl, by decide⟩
  | number n =>
      cases n with
      | float x => cases h
      | int n =>
          obtain ⟨c, cs, hcons, hc⟩ := numberChars_head n
          exact ⟨c, cs, hcons, hc.not_space, hc.ne (by decide) (by decide),
            hc.ne (by decide) (by decide)⟩

/-- The text in front of a rest is read as the tree of a value. -/
def ReadsAs (j : Json) : Prop :=
  ∀ fuel rest, 2 * j.toChars.length ≤ fuel → EndsNumeral rest →
    readValue fuel (j.toChars ++ rest) = (Tree.ofJson j, some rest)

theorem endsNumeral_mark {c : Char} (h : c = ',' ∨ c = ']' ∨ c = '\x7d') (rest : List Char) :
    EndsNumeral (c :: rest) := by
  intro d hd
  obtain rfl : c = d := Option.some.inj hd
  rcases h with rfl | rfl | rfl <;> decide

theorem exists_fuel {n fuel : Nat} (h : 2 * n ≤ fuel) (hn : 0 < n) :
    ∃ more, fuel = more + 1 ∧ 2 * n ≤ more + 1 := ⟨fuel - 1, by omega, by omega⟩

section

variable {fuel : Nat} {cs rest : List Char} {tree : Tree} {key : String}

theorem readItems_last (h : readValue fuel cs = (tree, some (']' :: rest))) :
    readItems (fuel + 1) cs = (.cons tree .closed, some rest) := by
  rw [readItems, h]
  rfl

theorem readItems_more {items : Items} {after : Option (List Char)}
    (h : readValue fuel cs = (tree, some (',' :: rest)))
    (hmore : readItems fuel rest = (items, after)) :
    readItems (fuel + 1) cs = (.cons tree items, after) := by
  have hcomma : skipSpace (',' :: rest) = ',' :: rest := rfl
  simp only [readItems, h, hcomma, hmore]

variable {text : List Char}
  (hkey : readString (text.length + 1) (.ok []) text = (.string (.ok key) none, some (':' :: cs)))
include hkey

theorem readMembers_last (h : readValue fuel cs = (tree, some ('\x7d' :: rest))) :
    readMembers (fuel + 1) ('"' :: text) = (.cons (.ok key) tree .closed, some rest) := by
  have hquote : skipSpace ('"' :: text) = '"' :: text := rfl
  have hcolon : skipSpace (':' :: cs) = ':' :: cs := rfl
  have hbrace : skipSpace ('\x7d' :: rest) = '\x7d' :: rest := rfl
  simp only [readMembers, hquote, hkey, hcolon, h, hbrace]

theorem readMembers_more {members : Members} {after : Option (List Char)}
    (h : readValue fuel cs = (tree, some (',' :: rest)))
    (hmore : readMembers fuel rest = (members, after)) :
    readMembers (fuel + 1) ('"' :: text) = (.cons (.ok key) tree members, after) := by
  have hquote : skipSpace ('"' :: text) = '"' :: text := rfl
  have hcolon : skipSpace (':' :: cs) = ':' :: cs := rfl
  have hcomma : skipSpace (',' :: rest) = ',' :: rest := rfl
  simp only [readMembers, hquote, hkey, hcolon, h, hcomma, hmore]

end

theorem readValue_array {c : Char} {cs : List Char} {fuel : Nat} {items : Items}
    {after : Option (List Char)} (hspace : isSpace c = false) (hc : c ≠ ']')
    (h : readItems fuel (c :: cs) = (items, after)) :
    readValue (fuel + 1) ('[' :: c :: cs) = (.array items, after) := by
  have hbracket : skipSpace ('[' :: c :: cs) = '[' :: c :: cs := rfl
  simp only [readValue, hbracket, skipSpace_cons hspace]
  split
  · rename_i heq
    cases heq
  · rename_i heq
    exact absurd (List.cons.inj heq).1 hc
  · rw [h]

theorem readValue_object {key : String} {cs : List Char} {fuel : Nat} {members : Members}
    {after : Option (List Char)} (h : readMembers fuel (quoted key ++ cs) = (members, after)) :
    readValue (fuel + 1) ('\x7b' :: (quoted key ++ cs)) = (.object members, after) := by
  have hbrace : skipSpace ('\x7b' :: (quoted key ++ cs)) = '\x7b' :: (quoted key ++ cs) := rfl
  have hquote : skipSpace (quoted key ++ cs) = quoted key ++ cs := rfl
  simp only [readValue, hbrace, hquote]
  split
  · rename_i heq
    cases heq
  · rw [h]

/-- The items after one that is read back are read back with it. -/
theorem readItems_chars {items : List Json} (hitems : ∀ j ∈ items, ReadsAs j) {head : Json}
    (hhead : ReadsAs head) (fuel : Nat)
    (hfuel : 2 * (head.toChars.length + (itemsChars items).length) ≤ fuel) (rest : List Char) :
    readItems fuel (head.toChars ++ (itemsChars items ++ rest)) =
      (.cons (Tree.ofJson head) (Items.ofList items), some rest) := by
  induction items generalizing head fuel with
  | nil =>
      have hlength : (itemsChars []).length = 1 := rfl
      obtain ⟨fuel, rfl, hfuel⟩ := exists_fuel hfuel (by omega)
      exact readItems_last (hhead fuel (']' :: rest) (by omega) (endsNumeral_mark (by simp) rest))
  | cons next items ih =>
      have hlength : (itemsChars (next :: items)).length =
          1 + (next.toChars.length + (itemsChars items).length) := by
        rw [itemsChars, List.length_cons, List.length_append, Nat.add_comm]
      have htext : itemsChars (next :: items) ++ rest =
          ',' :: (next.toChars ++ (itemsChars items ++ rest)) := by
        rw [itemsChars, List.cons_append, List.append_assoc]
      obtain ⟨fuel, rfl, hfuel⟩ := exists_fuel hfuel (by omega)
      rw [htext]
      refine readItems_more (hhead fuel _ (by omega) (endsNumeral_mark (by simp) _)) ?_
      exact ih (fun j hj => hitems j (List.mem_cons_of_mem _ hj)) (hitems next List.mem_cons_self)
        fuel (by omega)

/-- The members after one whose value is read back are read back with it. -/
theorem readMembers_chars {members : List (String × Json)}
    (hmembers : ∀ m ∈ members, ReadsAs m.2) (key : String) {value : Json} (hvalue : ReadsAs value)
    (fuel : Nat)
    (hfuel : 2 * ((quoted key).length + 1 + value.toChars.length + (membersChars members).length) ≤
      fuel) (rest : List Char) :
    readMembers fuel (quoted key ++ ':' :: (value.toChars ++ (membersChars members ++ rest))) =
      (.cons (.ok key) (Tree.ofJson value) (Members.ofList members), some rest) := by
  induction members generalizing key value fuel with
  | nil =>
      have hlength : (membersChars []).length = 1 := rfl
      obtain ⟨fuel, rfl, hfuel⟩ := exists_fuel hfuel (by omega)
      obtain ⟨text, htext, hkey⟩ :=
        readString_quoted key (':' :: (value.toChars ++ (membersChars [] ++ rest)))
      rw [htext]
      exact readMembers_last hkey
        (hvalue fuel ('\x7d' :: rest) (by omega) (endsNumeral_mark (by simp) rest))
  | cons m members ih =>
      obtain ⟨next, item⟩ := m
      have hlength : (membersChars ((next, item) :: members)).length =
          1 + ((quoted next).length + 1 + item.toChars.length + (membersChars members).length) := by
        simp only [membersChars, List.length_cons, List.length_append]
        omega
      have hmore : membersChars ((next, item) :: members) ++ rest =
          ',' :: (quoted next ++ ':' :: (item.toChars ++ (membersChars members ++ rest))) := by
        simp only [membersChars, List.cons_append, List.append_assoc]
      obtain ⟨fuel, rfl, hfuel⟩ := exists_fuel hfuel (by omega)
      obtain ⟨text, htext, hkey⟩ := readString_quoted key
        (':' :: (value.toChars ++ (membersChars ((next, item) :: members) ++ rest)))
      rw [htext]
      rw [hmore] at hkey
      have hitem : ReadsAs item := hmembers (next, item) List.mem_cons_self
      refine readMembers_more hkey (hvalue fuel _ (by omega) (endsNumeral_mark (by simp) _)) ?_
      exact ih (fun m hm => hmembers m (List.mem_cons_of_mem _ hm)) next hitem fuel (by omega)

/-- Items that are read back make an array that is read back. -/
theorem readsAs_array {items : List Json} (hitems : ∀ j ∈ items, ReadsAs j)
    (hfree : (Json.array items).isFloatFree = true) : ReadsAs (.array items) := by
  intro fuel rest hfuel _
  cases items with
  | nil =>
      obtain ⟨fuel, rfl, -⟩ := exists_fuel hfuel (by decide)
      rfl
  | cons item items =>
      have hlength : (Json.array (item :: items)).toChars.length =
          1 + (item.toChars.length + (itemsChars items).length) := by
        rw [toChars, List.length_cons, List.length_append, Nat.add_comm]
      have htext : (Json.array (item :: items)).toChars ++ rest =
          '[' :: (item.toChars ++ (itemsChars items ++ rest)) := by
        rw [toChars, List.cons_append, List.append_assoc]
      obtain ⟨fuel, rfl, hfuel⟩ := exists_fuel hfuel (by omega)
      obtain ⟨hitem, hmore⟩ := List.forall_mem_cons.1 hitems
      have hread := readItems_chars hmore hitem fuel (by omega) rest
      have hfirst := (areFloatFree_iff _).1 hfree item List.mem_cons_self
      obtain ⟨c, cs, hcons, hspace, hbracket, -⟩ := toChars_head item hfirst
      rw [hcons] at htext hread
      rw [htext]
      exact readValue_array hspace hbracket hread

/-- Values that are read back make an object that is read back. -/
theorem readsAs_object {members : List (String × Json)} (hmembers : ∀ m ∈ members, ReadsAs m.2) :
    ReadsAs (.object members) := by
  intro fuel rest hfuel _
  cases members with
  | nil =>
      obtain ⟨fuel, rfl, -⟩ := exists_fuel hfuel (by decide)
      rfl
  | cons m members =>
      obtain ⟨key, value⟩ := m
      have hlength : (Json.object ((key, value) :: members)).toChars.length =
          1 + ((quoted key).length + 1 + value.toChars.length + (membersChars members).length) := by
        simp only [toChars, List.length_cons, List.length_append]
        omega
      have htext : (Json.object ((key, value) :: members)).toChars ++ rest =
          '\x7b' :: (quoted key ++ ':' :: (value.toChars ++ (membersChars members ++ rest))) := by
        simp only [toChars, List.cons_append, List.append_assoc]
      obtain ⟨fuel, rfl, hfuel⟩ := exists_fuel hfuel (by omega)
      obtain ⟨hvalue, hmore⟩ := List.forall_mem_cons.1 hmembers
      have hread :=
        readMembers_chars hmore key (show ReadsAs value from hvalue) fuel (by omega) rest
      rw [htext]
      exact readValue_object hread

/-- A whole number that fits is read back. -/
theorem readsAs_int {n : Int} (h : (Number.int n).Fits) : ReadsAs (.int n) := by
  intro fuel rest hfuel hrest
  obtain ⟨c, cs, hcons, hc⟩ := numberChars_head n
  have hchars : (Json.int n).toChars = c :: cs := hcons
  have hread := readNumber_int h hrest
  rw [hchars, List.length_cons] at hfuel
  obtain ⟨fuel, rfl, -⟩ := exists_fuel hfuel (by omega)
  rw [hcons] at hread
  rw [hchars, List.cons_append, readValue_numeral hc]
  exact hread

theorem readsAs_string (s : String) : ReadsAs (.string s) := by
  intro fuel rest hfuel _
  obtain ⟨text, htext, hread⟩ := readString_quoted s rest
  obtain ⟨fuel, rfl, -⟩ := exists_fuel hfuel (by simp [toChars, quoted])
  show readValue (fuel + 1) (quoted s ++ rest) = _
  rw [htext]
  exact hread

/-- The text of a value is read as its tree, whatever follows that does not go on with a numeral. -/
theorem readsAs_of_exact {j : Json} (h : j.IsExact) : ReadsAs j := by
  induction j using induct with
  | null =>
      intro fuel rest hfuel _
      obtain ⟨fuel, rfl, -⟩ := exists_fuel hfuel (by decide)
      rfl
  | bool b =>
      intro fuel rest hfuel _
      cases b with
      | false =>
          obtain ⟨fuel, rfl, -⟩ := exists_fuel hfuel (by decide)
          rfl
      | true =>
          obtain ⟨fuel, rfl, -⟩ := exists_fuel hfuel (by decide)
          rfl
  | number n =>
      cases n with
      | float x => cases h.floatFree
      | int n => exact readsAs_int h.fits
  | string s => exact readsAs_string s
  | array items ih =>
      have hitems := (isExact_array items).1 h
      exact readsAs_array (fun j hj => ih j hj (hitems j hj)) h.floatFree
  | object members ih =>
      have hmembers := (isExact_object members).1 h
      exact readsAs_object fun m hm => ih m hm (hmembers m hm)

/-! ## Whole texts -/

/-- What is written is read as the tree of the value, and nothing is left. -/
theorem read_render {j : Json} (h : j.IsExact) : read j.render = ⟨Tree.ofJson j, false⟩ := by
  have hread := readsAs_of_exact h (2 * j.toChars.length + 2) [] (by omega) (by simp [EndsNumeral])
  rw [List.append_nil] at hread
  have htext : j.render.toList = j.toChars := String.toList_ofList
  rw [read, htext, hread]
  rfl

end HostAgent.Json
