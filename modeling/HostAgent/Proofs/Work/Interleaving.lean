import Mathlib.Data.Fintype.Card
import HostAgent.Proofs.Work.History

/-!
# Programs that take turns

Several programs run in the same surroundings, in any order, and in between the
surroundings move on their own. What happened is one trace of replies and
moves. Each program only knows its own part of it, which is a history of that
program and may stop anywhere; the whole trace leads the surroundings from one
state to the next.

## Main results

* `Trail.append_iff`: a trace can be cut anywhere.
* `Trail.invariant`: what every happening preserves holds in the end.
* `Trail.switch`: what is brought about and undone again holds by what happened last.
* `Trail.turn`: what comes to hold does so at some point.
* `Trail.last`: a trace is cut where something of a kind happened last.
* `Interleaving.complete`: if every question may be replied to, all programs can come to an end.
-/

namespace HostAgent

/-- Something that happens among programs: one of them gets a reply, or the surroundings move. -/
inductive Happening (ι : Type) {Q : Type} (Reply : Q → Type) (Move : Type)
  | asked (who : ι) (e : Asked Reply)
  | moved (m : Move)

variable {ι Q Move α σ : Type} {Reply : Q → Type}

/-- Which states a happening leads to. -/
abbrev Scene (σ ι : Type) {Q : Type} (Reply : Q → Type) (Move : Type) : Type :=
  σ → Happening ι Reply Move → σ → Prop

/-- A trace from one state to another. -/
inductive Trail (scene : Scene σ ι Reply Move) : σ → List (Happening ι Reply Move) → σ → Prop
  | nil (s : σ) : Trail scene s [] s
  | cons {s s₁ s₂ : σ} {h : Happening ι Reply Move} {hs : List (Happening ι Reply Move)} :
      scene s h s₁ → Trail scene s₁ hs s₂ → Trail scene s (h :: hs) s₂

namespace Trail

variable {scene : Scene σ ι Reply Move} {s s' : σ}

theorem append_iff (first second : List (Happening ι Reply Move)) :
    Trail scene s (first ++ second) s' ↔
      ∃ mid, Trail scene s first mid ∧ Trail scene mid second s' := by
  induction first generalizing s with
  | nil =>
      constructor
      · intro h
        exact ⟨s, .nil s, h⟩
      · rintro ⟨mid, hfirst, hsecond⟩
        cases hfirst
        exact hsecond
  | cons h hs ih =>
      constructor
      · intro htrail
        cases htrail with
        | cons hstep hrest =>
            obtain ⟨mid, hfirst, hsecond⟩ := ih.1 hrest
            exact ⟨mid, .cons hstep hfirst, hsecond⟩
      · rintro ⟨mid, hfirst, hsecond⟩
        cases hfirst with
        | cons hstep hrest => exact .cons hstep (ih.2 ⟨mid, hrest, hsecond⟩)

theorem cons_iff (h : Happening ι Reply Move) (hs : List (Happening ι Reply Move)) :
    Trail scene s (h :: hs) s' ↔ ∃ mid, scene s h mid ∧ Trail scene mid hs s' := by
  constructor
  · intro htrail
    cases htrail with
    | cons hstep hrest => exact ⟨_, hstep, hrest⟩
  · rintro ⟨mid, hstep, hrest⟩
    exact .cons hstep hrest

/-- What happened did so in some state. -/
theorem of_mem {h : Happening ι Reply Move} {hs : List (Happening ι Reply Move)}
    (htrail : Trail scene s hs s') (hmem : h ∈ hs) :
    ∃ before after mid mid', hs = before ++ h :: after ∧ Trail scene s before mid ∧
      scene mid h mid' ∧ Trail scene mid' after s' := by
  obtain ⟨before, after, rfl⟩ := List.append_of_mem hmem
  obtain ⟨mid, hbefore, hrest⟩ := (append_iff _ _).1 htrail
  obtain ⟨mid', hstep, hafter⟩ := (cons_iff _ _).1 hrest
  exact ⟨before, after, mid, mid', rfl, hbefore, hstep, hafter⟩

/-- What every happening preserves holds in the end. -/
theorem invariant {P : σ → Prop} {hs : List (Happening ι Reply Move)}
    (htrail : Trail scene s hs s')
    (hstep : ∀ s h s', h ∈ hs → P s → scene s h s' → P s') (hs₀ : P s) : P s' := by
  induction htrail with
  | nil => exact hs₀
  | cons hhere _ ih =>
      exact ih (fun s h s' hmem => hstep s h s' (List.mem_cons_of_mem _ hmem))
        (hstep _ _ _ List.mem_cons_self hs₀ hhere)

/-- What some happenings bring about and others undo holds in the end if it was brought about and
not undone since, or if it held before and was never undone. -/
theorem switch {P : σ → Prop} {on off : Happening ι Reply Move → Prop}
    {hs : List (Happening ι Reply Move)} (htrail : Trail scene s hs s')
    (hstep : ∀ s h s', h ∈ hs → scene s h s' → (P s' ↔ on h ∨ (P s ∧ ¬ off h))) :
    P s' ↔
      (∃ before h after, hs = before ++ h :: after ∧ on h ∧ ∀ h' ∈ after, ¬ off h') ∨
        (P s ∧ ∀ h ∈ hs, ¬ off h) := by
  induction htrail with
  | nil => simp
  | @cons s s₁ s₂ h hs hhere _ ih =>
      have hfirst : P s₁ ↔ on h ∨ (P s ∧ ¬ off h) := hstep s h s₁ List.mem_cons_self hhere
      rw [ih fun s h s' hmem => hstep s h s' (List.mem_cons_of_mem _ hmem), hfirst]
      constructor
      · rintro (⟨before, h', after, rfl, hon, hoff⟩ | ⟨hon | ⟨hP, hkept⟩, hoff⟩)
        · exact .inl ⟨h :: before, h', after, rfl, hon, hoff⟩
        · exact .inl ⟨[], h, hs, rfl, hon, hoff⟩
        · refine .inr ⟨hP, ?_⟩
          rintro h' (_ | ⟨_, hmem⟩)
          · exact hkept
          · exact hoff h' hmem
      · rintro (⟨before, h', after, hsplit, hon, hoff⟩ | ⟨hP, hoff⟩)
        · cases before with
          | nil =>
              cases hsplit
              exact .inr ⟨.inl hon, hoff⟩
          | cons _ before =>
              cases hsplit
              exact .inl ⟨before, h', after, rfl, hon, hoff⟩
        · exact .inr ⟨.inr ⟨hP, hoff h List.mem_cons_self⟩,
            fun h' hmem => hoff h' (List.mem_cons_of_mem _ hmem)⟩

/-- What did not hold before and holds in the end came about at some point. -/
theorem turn {P : σ → Prop} {hs : List (Happening ι Reply Move)} (htrail : Trail scene s hs s')
    (hbefore : ¬ P s) (hafter : P s') :
    ∃ before h after mid mid', hs = before ++ h :: after ∧ Trail scene s before mid ∧
      scene mid h mid' ∧ Trail scene mid' after s' ∧ ¬ P mid ∧ P mid' := by
  induction htrail with
  | nil => exact absurd hafter hbefore
  | @cons s s₁ s₂ h hs hhere hrest ih =>
      by_cases hnow : P s₁
      · exact ⟨[], h, hs, s, s₁, rfl, .nil s, hhere, hrest, hbefore, hnow⟩
      · obtain ⟨before, h', after, mid, mid', rfl, hfirst, hstep, hlast, hmid, hmid'⟩ :=
          ih hnow hafter
        exact ⟨h :: before, h', after, mid, mid', rfl, .cons hhere hfirst, hstep, hlast, hmid,
          hmid'⟩

/-- If something of a kind happened, it happened for the last time at some point. -/
theorem last {on : Happening ι Reply Move → Prop} {hs : List (Happening ι Reply Move)}
    (htrail : Trail scene s hs s') (hsome : ∃ h ∈ hs, on h) :
    ∃ before h after mid mid', hs = before ++ h :: after ∧ scene mid h mid' ∧
      Trail scene mid' after s' ∧ on h ∧ ∀ h' ∈ after, ¬ on h' := by
  induction htrail with
  | nil =>
      obtain ⟨h, hmem, -⟩ := hsome
      cases hmem
  | @cons s s₁ s₂ h hs hhere hrest ih =>
      by_cases hlater : ∃ h' ∈ hs, on h'
      · obtain ⟨before, h', after, mid, mid', rfl, hstep, hlast, hon, hnone⟩ := ih hlater
        exact ⟨h :: before, h', after, mid, mid', rfl, hstep, hlast, hon, hnone⟩
      · have hnone : ∀ h' ∈ hs, ¬ on h' := fun h' hmem hon => hlater ⟨h', hmem, hon⟩
        have hon : on h := by
          obtain ⟨h', hmem, hon⟩ := hsome
          rcases List.mem_cons.1 hmem with rfl | hmem
          · exact hon
          · exact absurd hon (hnone h' hmem)
        exact ⟨[], h, hs, s, s₁, rfl, hhere, hrest, hon, hnone⟩

end Trail

variable [DecidableEq ι]

/-- The part of a trace that one of the programs knows. -/
def ownHistory (who : ι) (hs : List (Happening ι Reply Move)) : List (Asked Reply) :=
  hs.filterMap fun
    | .asked who' e => if who' = who then some e else none
    | .moved _ => none

theorem ownHistory_append (who : ι) (first second : List (Happening ι Reply Move)) :
    ownHistory who (first ++ second) = ownHistory who first ++ ownHistory who second := by
  simp [ownHistory]

@[simp] theorem ownHistory_moved (who : ι) (m : Move) (hs : List (Happening ι Reply Move)) :
    ownHistory who (.moved m :: hs) = ownHistory who hs := rfl

theorem ownHistory_asked (who who' : ι) (e : Asked Reply) (hs : List (Happening ι Reply Move)) :
    ownHistory who (.asked who' e :: hs) =
      if who' = who then e :: ownHistory who hs else ownHistory who hs := by
  by_cases h : who' = who <;> simp [ownHistory, h]

theorem mem_ownHistory {who : ι} {e : Asked Reply} {hs : List (Happening ι Reply Move)} :
    e ∈ ownHistory who hs ↔ .asked who e ∈ hs := by
  simp only [ownHistory, List.mem_filterMap]
  constructor
  · rintro ⟨h, hmem, hown⟩
    cases h with
    | asked who' e' =>
        simp only [Option.ite_none_right_eq_some, Option.some.injEq] at hown
        obtain ⟨rfl, rfl⟩ := hown
        exact hmem
    | moved m => cases hown
  · intro hmem
    exact ⟨_, hmem, by simp⟩

/-- Where a program got a reply, the whole trace is cut in two. -/
theorem ownHistory_split {who : ι} {e : Asked Reply} {hs : List (Happening ι Reply Move)}
    {first second : List (Asked Reply)} (h : ownHistory who hs = first ++ e :: second) :
    ∃ before after, hs = before ++ .asked who e :: after ∧ ownHistory who before = first ∧
      ownHistory who after = second := by
  obtain ⟨before, rest, rfl, hbefore, hrest⟩ := List.filterMap_eq_append_iff.1 h
  obtain ⟨skipped, x, after, rfl, hskipped, hx, hafter⟩ := List.filterMap_eq_cons_iff.1 hrest
  cases x with
  | moved m => cases hx
  | asked who' e' =>
      simp only [Option.ite_none_right_eq_some, Option.some.injEq] at hx
      obtain ⟨rfl, rfl⟩ := hx
      refine ⟨before ++ skipped, after, by simp, ?_, hafter⟩
      rw [ownHistory_append, show ownHistory who' skipped = [] from
        List.filterMap_eq_nil_iff.2 hskipped, List.append_nil]
      exact hbefore

/-- What happened among programs that take turns, from one state of their surroundings to another,
and what is left of each program. -/
structure Interleaving (scene : Scene σ ι Reply Move) (programs : ι → Program Reply α)
    (s : σ) (hs : List (Happening ι Reply Move)) (left : ι → Program Reply α) (s' : σ) :
    Prop where
  trail : Trail scene s hs s'
  own : ∀ who, (programs who).Reaches (ownHistory who hs) (left who)

namespace Interleaving

variable {scene : Scene σ ι Reply Move} {programs left : ι → Program Reply α} {s s' : σ}
  {hs : List (Happening ι Reply Move)}

/-- Where every question may be replied to, one of the programs can be run to its end. -/
theorem complete_one (hreplies : ∀ s who q, ∃ r s', scene s (.asked who ⟨q, r⟩) s') (who : ι)
    (h : Interleaving scene programs s hs left s') :
    ∃ more left' s'', Interleaving scene programs s (hs ++ more) left' s'' ∧
      (∃ a, left' who = .done a) ∧ ∀ other, other ≠ who → left' other = left other := by
  generalize hleft : left who = p
  induction p generalizing hs left s' with
  | done a => exact ⟨[], left, s', by rwa [List.append_nil], ⟨a, hleft⟩, fun _ _ => rfl⟩
  | ask q k ih =>
      obtain ⟨r, s₁, hstep⟩ := hreplies s' who q
      -- One more reply to this program, and none to the others.
      let next : ι → Program Reply α := fun other => if other = who then k r else left other
      have hnext : Interleaving scene programs s (hs ++ [.asked who ⟨q, r⟩]) next s₁ :=
        { trail := (Trail.append_iff _ _).2 ⟨s', h.trail, .cons hstep (.nil s₁)⟩
          own := by
            intro other
            rw [ownHistory_append]
            refine (Program.reaches_append _ _).2 ⟨left other, h.own other, ?_⟩
            by_cases heq : other = who
            · subst heq
              simpa [hleft, ownHistory, next] using Program.Reaches.ask q k r (.here (k r))
            · simpa [ownHistory, next, heq, Ne.symm heq] using Program.Reaches.here (left other) }
      obtain ⟨more, left', s'', hall, hdone, hothers⟩ := ih r hnext (if_pos rfl)
      refine ⟨.asked who ⟨q, r⟩ :: more, left', s'', by simpa using hall, hdone, ?_⟩
      intro other hne
      rw [hothers other hne]
      exact if_neg hne

/-- Where every question may be replied to, finitely many programs can all be run to their ends. -/
theorem complete [Finite ι] (hreplies : ∀ s who q, ∃ r s', scene s (.asked who ⟨q, r⟩) s')
    (h : Interleaving scene programs s hs left s') :
    ∃ more, ∃ results : ι → α, ∃ s'',
      Interleaving scene programs s (hs ++ more) (fun who => .done (results who)) s'' := by
  have hsome : ∀ whos : List ι, ∃ more left' s'',
      Interleaving scene programs s (hs ++ more) left' s'' ∧
        ∀ who ∈ whos, ∃ a, left' who = .done a := by
    intro whos
    induction whos with
    | nil => exact ⟨[], left, s', by rwa [List.append_nil], by simp⟩
    | cons who whos ih =>
        obtain ⟨first, left', s₁, hfirst, hdone⟩ := ih
        obtain ⟨second, left'', s'', hsecond, hlast, hothers⟩ :=
          hfirst.complete_one hreplies who
        refine ⟨first ++ second, left'', s'', by rwa [← List.append_assoc], ?_⟩
        intro other hmem
        by_cases heq : other = who
        · exact heq ▸ hlast
        · rw [hothers other heq]
          exact hdone other ((List.mem_cons.1 hmem).resolve_left heq)
  obtain ⟨whos, -, hwhos⟩ := Finite.exists_univ_list ι
  obtain ⟨more, left', s'', hall, hdone⟩ := hsome whos
  choose results hresults using fun who => hdone who (hwhos who)
  obtain rfl : left' = fun who => .done (results who) := funext hresults
  exact ⟨more, results, s'', hall⟩

end Interleaving

end HostAgent
