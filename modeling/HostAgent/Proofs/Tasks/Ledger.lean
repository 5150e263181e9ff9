import Mathlib.Data.List.Induction
import HostAgent.Proofs.Work.History
import HostAgent.Tasks.Poll

/-!
# The ledger of tasks

What polls do with tasks shows outside as a list of deeds: a task was executed
and its result reported, a kept result was reported again, or tasks were
listed. From the deeds alone it follows how each task stands, namely what its
latest execution resulted in, and whether a report of that was accepted.

The kept results are a small machine over these deeds. It executes only what it
keeps nothing of, reports again only what it keeps, and keeps what was not
accepted. `Books` is the invariant of that machine: exactly the results that
were not accepted are kept, and nothing was executed while its last result was
still waiting.

## Main results

* `Books.step`, `Books.path`: each deed, and so a whole list of them, keeps the
  books right.
* `accepted_of_standing`: a result that counts as accepted has a report that was.
-/

namespace HostAgent.Tasks

/-- Something that polls did with tasks, as it shows outside. -/
inductive Deed
  /-- A task was executed, and its result reported for the first time. -/
  | executed (id : String) (result : TaskResult) (accepted : Bool)
  /-- A kept result was reported again. -/
  | resent (id : String) (result : TaskResult) (accepted : Bool)
  | listed (tasks : List Task)
deriving DecidableEq, Repr

/-- How a task stands: what its latest execution resulted in, and whether a report of that was
accepted since. -/
structure Standing where
  result : TaskResult
  accepted : Bool
deriving DecidableEq, Repr

/-- How the task `id` stands after one more deed. -/
def Deed.update (id : String) : Option Standing → Deed → Option Standing
  | s, .executed id' result accepted => if id' = id then some ⟨result, accepted⟩ else s
  | some s, .resent id' result true =>
    if id' = id ∧ result = s.result then some { s with accepted := true } else some s
  | s, _ => s

/-- How the task `id` stands after deeds in this order; nothing if it was never executed. -/
def standing (id : String) (ds : List Deed) : Option Standing := ds.foldl (Deed.update id) none

/-- The ids of the tasks that were executed, in order. -/
def executedIds (ds : List Deed) : List String :=
  ds.filterMap fun
    | .executed id _ _ => some id
    | _ => none

/-- What the latest execution of the task `id` resulted in. -/
def lastResult (id : String) (ds : List Deed) : Option TaskResult :=
  ds.reverse.findSome? fun
    | .executed id' result _ => if id' = id then some result else none
    | _ => none

/-- A report of this result of the task `id` was accepted. -/
def Accepted (id : String) (result : TaskResult) (ds : List Deed) : Prop :=
  .executed id result true ∈ ds ∨ .resent id result true ∈ ds

theorem standing_append_singleton (id : String) (ds : List Deed) (d : Deed) :
    standing id (ds ++ [d]) = d.update id (standing id ds) := by
  simp [standing]

@[simp] theorem executedIds_nil : executedIds [] = [] := rfl

@[simp] theorem executedIds_cons_executed (id : String) (result : TaskResult) (accepted : Bool)
    (ds : List Deed) : executedIds (.executed id result accepted :: ds) = id :: executedIds ds :=
  rfl

@[simp] theorem executedIds_cons_resent (id : String) (result : TaskResult) (accepted : Bool)
    (ds : List Deed) : executedIds (.resent id result accepted :: ds) = executedIds ds := rfl

@[simp] theorem executedIds_cons_listed (tasks : List Task) (ds : List Deed) :
    executedIds (.listed tasks :: ds) = executedIds ds := rfl

theorem executedIds_append (ds es : List Deed) :
    executedIds (ds ++ es) = executedIds ds ++ executedIds es := by
  simp [executedIds]

/-- A task stands by its latest execution, whatever was reported again since. -/
theorem standing_result (id : String) (ds : List Deed) :
    (standing id ds).map Standing.result = lastResult id ds := by
  induction ds using List.reverseRecOn with
  | nil => rfl
  | append_singleton ds d ih =>
      rw [standing_append_singleton, lastResult, List.reverse_append, List.reverse_singleton,
        List.singleton_append, List.findSome?_cons, ← lastResult, ← ih]
      cases d with
      | executed id' result accepted =>
          by_cases hid : id' = id <;> simp [Deed.update, hid]
      | resent id' result accepted =>
          cases hs : standing id ds with
          | none => cases accepted <;> rfl
          | some s =>
              cases accepted with
              | false => rfl
              | true =>
                  rw [Deed.update]
                  split <;> rfl
      | listed tasks => cases standing id ds <;> rfl

theorem standing_ne_none_of_executed {id : String} {ds : List Deed}
    (h : id ∈ executedIds ds) : standing id ds ≠ none := by
  induction ds using List.reverseRecOn with
  | nil => simp at h
  | append_singleton ds d ih =>
      rw [standing_append_singleton]
      rw [executedIds_append, List.mem_append] at h
      cases d with
      | executed id' result accepted =>
          by_cases hid : id' = id
          · simp [Deed.update, hid]
          · have hold : id ∈ executedIds ds := by
              rcases h with h | h
              · exact h
              · exact absurd (by simpa using h) (Ne.symm hid)
            simpa [Deed.update, hid] using ih hold
      | resent id' result accepted =>
          have hold : id ∈ executedIds ds := by simpa using h
          obtain ⟨s, hs⟩ := Option.ne_none_iff_exists'.1 (ih hold)
          cases accepted
          · simp [Deed.update, hs]
          · rw [hs, Deed.update]
            split <;> simp
      | listed tasks =>
          have hold : id ∈ executedIds ds := by simpa using h
          simpa [Deed.update] using ih hold

theorem accepted_of_standing {id : String} {ds : List Deed} {result : TaskResult}
    (h : standing id ds = some ⟨result, true⟩) : Accepted id result ds := by
  induction ds using List.reverseRecOn with
  | nil => simp [standing] at h
  | append_singleton ds d ih =>
      have keep : Accepted id result ds → Accepted id result (ds ++ [d]) :=
        Or.imp (List.mem_append_left _) (List.mem_append_left _)
      rw [standing_append_singleton] at h
      cases d with
      | executed id' r accepted =>
          by_cases hid : id' = id
          · subst hid
            simp only [Deed.update, if_true, Option.some.injEq, Standing.mk.injEq] at h
            obtain ⟨rfl, rfl⟩ := h
            exact .inl (by simp)
          · exact keep (ih (by simpa [Deed.update, hid] using h))
      | resent id' r accepted =>
          cases hs : standing id ds with
          | none => simp [hs, Deed.update] at h
          | some s =>
              cases accepted with
              | false => exact keep (ih (by simpa [hs, Deed.update] using h))
              | true =>
                  rw [hs, Deed.update] at h
                  split at h
                  · rename_i hsame
                    obtain ⟨rfl, rfl⟩ := hsame
                    simp only [Option.some.injEq, Standing.mk.injEq] at h
                    exact .inr (by simp [← h.1])
                  · exact keep (ih (hs.trans h))
      | listed tasks => exact keep (ih (by simpa [Deed.update] using h))

/-! ## The machine of kept results -/

/-- One deed, from the results kept before to those kept after. -/
inductive Step : Unreported → Deed → Unreported → Prop
  | execute (kept : Unreported) (id : String) (result : TaskResult) (accepted : Bool) :
      kept.get? id = none →
      Step kept (.executed id result accepted) (if accepted then kept else kept.insert id result)
  | resend (kept : Unreported) (id : String) (result : TaskResult) (accepted : Bool) :
      kept.get? id = some result →
      Step kept (.resent id result accepted) (if accepted then kept.erase id else kept)
  | list (kept : Unreported) (tasks : List Task) : Step kept (.listed tasks) kept

/-- Deeds one after another. -/
inductive Path : Unreported → List Deed → Unreported → Prop
  | nil (kept : Unreported) : Path kept [] kept
  | cons {kept kept₁ kept₂ : Unreported} {d : Deed} {ds : List Deed} :
      Step kept d kept₁ → Path kept₁ ds kept₂ → Path kept (d :: ds) kept₂

theorem Path.append {kept kept₁ kept₂ : Unreported} {ds es : List Deed}
    (h : Path kept ds kept₁) (h' : Path kept₁ es kept₂) : Path kept (ds ++ es) kept₂ := by
  induction h with
  | nil => exact h'
  | cons hstep _ ih => exact .cons hstep (ih h')

/-- The kept results are in order after some deeds. -/
structure Books (kept : Unreported) (ds : List Deed) : Prop where
  /-- Exactly the latest results without an accepted report are kept. -/
  kept_iff : ∀ id result, kept.get? id = some result ↔ standing id ds = some ⟨result, false⟩
  /-- Nothing was executed while its last result was not accepted. -/
  careful : ∀ before id result accepted after,
    ds = before ++ .executed id result accepted :: after →
    ∀ waiting, standing id before ≠ some ⟨waiting, false⟩

theorem Books.empty : Books ∅ [] where
  kept_iff := by simp [standing]
  careful := by
    intro before id result accepted after h
    simp at h

/-- The last of some deeds is the one at their end, or it comes earlier. -/
private theorem snoc_split {before after ds : List Deed} {d d' : Deed}
    (h : ds ++ [d] = before ++ d' :: after) :
    (before = ds ∧ d' = d) ∨ ∃ after', ds = before ++ d' :: after' := by
  rcases List.eq_nil_or_concat after with rfl | ⟨after', last, rfl⟩
  · obtain ⟨rfl, hd⟩ := List.append_inj' h rfl
    exact .inl ⟨rfl, (List.singleton_inj.1 hd).symm⟩
  · rw [List.concat_eq_append, ← List.cons_append, ← List.append_assoc] at h
    exact .inr ⟨after', (List.append_inj' h rfl).1⟩

theorem Books.step {kept kept' : Unreported} {ds : List Deed} {d : Deed}
    (h : Books kept ds) (hstep : Step kept d kept') : Books kept' (ds ++ [d]) := by
  refine { kept_iff := ?_, careful := ?_ }
  · intro id result
    rw [standing_append_singleton]
    cases hstep with
    | execute id' r accepted hfree =>
        by_cases hid : id' = id
        · subst hid
          cases accepted <;> simp [Deed.update, hfree]
        · cases accepted <;> simp [Deed.update, hid, Ne.symm hid, h.kept_iff]
    | resend id' r accepted hkept =>
        cases accepted with
        | false => cases hs : standing id ds <;> simp [Deed.update, h.kept_iff, hs]
        | true =>
            by_cases hid : id' = id
            · subst hid
              simp [Deed.update, (h.kept_iff _ _).1 hkept]
            · cases hs : standing id ds <;>
                simp [Deed.update, hid, Ne.symm hid, h.kept_iff, hs]
    | list tasks => simp [Deed.update, h.kept_iff]
  · intro before id result accepted after hsplit waiting
    rcases snoc_split hsplit with ⟨rfl, rfl⟩ | ⟨after', hold⟩
    · cases hstep with
      | execute _ _ _ hfree =>
          intro hs
          rw [(h.kept_iff id waiting).2 hs] at hfree
          cases hfree
    · exact h.careful before id result accepted after' hold waiting

theorem Books.path {kept kept' : Unreported} {ds es : List Deed}
    (h : Books kept ds) (hpath : Path kept es kept') : Books kept' (ds ++ es) := by
  induction hpath generalizing ds with
  | nil => simpa using h
  | cons hstep _ ih => simpa using ih (h.step hstep)

end HostAgent.Tasks
