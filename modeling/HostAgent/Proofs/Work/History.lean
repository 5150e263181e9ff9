import HostAgent.Work.Program

/-!
# Histories of programs

What a program did so far is the list of the questions it asked, each with the
reply it got, and what is left of the program. Nothing is said about who
replies, so a statement about every history of a program holds whatever its
surroundings do. Several programs that take turns each have a history of their
own, which may stop anywhere.

## Main results

* `Program.reaches_append`: a history can be cut anywhere.
* `Program.Yields.complete`: nothing comes after a complete history.
* `Program.yields_bind`: a complete history of a sequence is one of each part.
* `Program.yields_run`: running a program on a state gives a complete history.
* `Program.reaches_bind_cases`: a history of a sequence has stopped in one of its parts.
* `Program.Asking.of_reaches`: what holds of all questions of a program holds
  along each of its histories, and of what is left.
* `Program.Asking.except_bind`: all questions of a sequence that may fail.
* `Program.Brings.bind`: what a sequence brings about, from what its parts do.
-/

namespace HostAgent

/-- A question, and the reply it got. -/
structure Asked {Q : Type} (Reply : Q → Type) where
  question : Q
  reply : Reply question

namespace Program

variable {Q R : Type} {Reply : Q → Type} {Reply' : R → Type} {α β σ τ : Type}

/-- The replies of a history bring a program to what is left of it. -/
inductive Reaches : Program Reply α → List (Asked Reply) → Program Reply α → Prop
  | here (p : Program Reply α) : Reaches p [] p
  | ask (q : Q) (k : Reply q → Program Reply α) (r : Reply q)
      {past : List (Asked Reply)} {rest : Program Reply α} :
      Reaches (k r) past rest → Reaches (.ask q k) (⟨q, r⟩ :: past) rest

/-- A history brings a program to its answer. -/
def Yields (p : Program Reply α) (past : List (Asked Reply)) (a : α) : Prop :=
  p.Reaches past (.done a)

/-- A history can be cut anywhere. -/
theorem reaches_append {p rest : Program Reply α} (first second : List (Asked Reply)) :
    p.Reaches (first ++ second) rest ↔ ∃ mid, p.Reaches first mid ∧ mid.Reaches second rest := by
  induction first generalizing p with
  | nil =>
      constructor
      · intro h
        exact ⟨p, .here p, h⟩
      · rintro ⟨mid, hfirst, hsecond⟩
        cases hfirst
        exact hsecond
  | cons e first ih =>
      constructor
      · intro h
        cases h with
        | ask q k r h =>
            obtain ⟨mid, hfirst, hsecond⟩ := ih.1 h
            exact ⟨mid, .ask q k r hfirst, hsecond⟩
      · rintro ⟨mid, hfirst, hsecond⟩
        cases hfirst with
        | ask q k r hfirst => exact .ask q k r (ih.2 ⟨mid, hfirst, hsecond⟩)

/-! ## Complete histories -/

theorem yields_done (a b : α) (past : List (Asked Reply)) :
    (done a : Program Reply α).Yields past b ↔ past = [] ∧ a = b := by
  constructor
  · intro h
    cases h
    exact ⟨rfl, rfl⟩
  · rintro ⟨rfl, rfl⟩
    exact .here _

theorem yields_ask (q : Q) (k : Reply q → Program Reply α) (past : List (Asked Reply)) (a : α) :
    (ask q k).Yields past a ↔ ∃ r rest, past = ⟨q, r⟩ :: rest ∧ (k r).Yields rest a := by
  constructor
  · intro h
    cases h with
    | ask _ _ r h => exact ⟨r, _, rfl, h⟩
  · rintro ⟨r, rest, rfl, h⟩
    exact .ask q k r h

theorem yields_bind (p : Program Reply α) (f : α → Program Reply β) (past : List (Asked Reply))
    (b : β) :
    (p.bind f).Yields past b ↔
      ∃ first second a, past = first ++ second ∧ p.Yields first a ∧ (f a).Yields second b := by
  induction p generalizing past with
  | done a =>
      constructor
      · intro h
        exact ⟨[], past, a, rfl, .here _, h⟩
      · rintro ⟨first, second, a', rfl, hfirst, hsecond⟩
        obtain ⟨rfl, rfl⟩ := (yields_done _ _ _).1 hfirst
        exact hsecond
  | ask q k ih =>
      constructor
      · intro h
        obtain ⟨r, rest, rfl, hrest⟩ := (yields_ask _ _ _ _).1 h
        obtain ⟨first, second, a, rfl, hfirst, hsecond⟩ := (ih r rest).1 hrest
        exact ⟨⟨q, r⟩ :: first, second, a, rfl, .ask q k r hfirst, hsecond⟩
      · rintro ⟨first, second, a, rfl, hfirst, hsecond⟩
        obtain ⟨r, rest, rfl, hrest⟩ := (yields_ask _ _ _ _).1 hfirst
        exact .ask q _ r ((ih r _).2 ⟨rest, second, a, rfl, hrest, hsecond⟩)

/-- A complete history of the first part, and then a history of the second, is one of both. -/
theorem reaches_bind {p : Program Reply α} {f : α → Program Reply β}
    {first second : List (Asked Reply)} {a : α} {rest : Program Reply β}
    (hp : p.Yields first a) (hf : (f a).Reaches second rest) :
    (p.bind f).Reaches (first ++ second) rest := by
  induction p generalizing first with
  | done a' =>
      obtain ⟨rfl, rfl⟩ := (yields_done _ _ _).1 hp
      exact hf
  | ask q k ih =>
      obtain ⟨r, past, rfl, hpast⟩ := (yields_ask _ _ _ _).1 hp
      exact .ask q _ r (ih r hpast)

/-- A history of a sequence has stopped in the first part, or in the second. -/
theorem reaches_bind_cases {p : Program Reply α} {f : α → Program Reply β}
    {past : List (Asked Reply)} {rest : Program Reply β} (h : (p.bind f).Reaches past rest) :
    (∃ p', p.Reaches past p' ∧ rest = p'.bind f) ∨
      ∃ first second a, past = first ++ second ∧ p.Yields first a ∧ (f a).Reaches second rest := by
  induction p generalizing past with
  | done a => exact .inr ⟨[], past, a, rfl, .here _, h⟩
  | ask q k ih =>
      cases h with
      | here => exact .inl ⟨_, .here _, rfl⟩
      | ask _ _ r hrest =>
          rcases ih r hrest with ⟨p', hp', rfl⟩ | ⟨first, second, a, rfl, hfirst, hsecond⟩
          · exact .inl ⟨p', .ask q k r hp', rfl⟩
          · exact .inr ⟨⟨q, r⟩ :: first, second, a, rfl, .ask q k r hfirst, hsecond⟩

/-- The replies decide what is left. -/
theorem reaches_unique {p r₁ r₂ : Program Reply α} {past : List (Asked Reply)}
    (h₁ : p.Reaches past r₁) (h₂ : p.Reaches past r₂) : r₁ = r₂ := by
  induction h₁ with
  | here =>
      cases h₂
      rfl
  | ask q k r _ ih =>
      cases h₂ with
      | ask _ _ _ h₂ => exact ih h₂

/-- Nothing comes after a complete history. -/
theorem Yields.complete {p rest : Program Reply α} {past more : List (Asked Reply)} {a : α}
    (h : p.Yields past a) (hmore : p.Reaches (past ++ more) rest) : more = [] ∧ rest = .done a := by
  obtain ⟨mid, hpast, hrest⟩ := (reaches_append _ _).1 hmore
  obtain rfl := reaches_unique hpast h
  cases hrest
  exact ⟨rfl, rfl⟩

/-- A program comes to its end if it gets replies. -/
theorem exists_yields (hreply : ∀ q, Nonempty (Reply q)) (p : Program Reply α) :
    ∃ past a, p.Yields past a := by
  induction p with
  | done a => exact ⟨[], a, .here _⟩
  | ask q k ih =>
      obtain ⟨r⟩ := hreply q
      obtain ⟨past, a, h⟩ := ih r
      exact ⟨_, a, .ask q k r h⟩

/-- The history of running a program on a state. -/
def history (answer : σ → (q : Q) → Reply q × σ) : Program Reply α → σ → List (Asked Reply)
  | .done _, _ => []
  | .ask q k, s => ⟨q, (answer s q).1⟩ :: (k (answer s q).1).history answer (answer s q).2

theorem yields_run (answer : σ → (q : Q) → Reply q × σ) (p : Program Reply α) (s : σ) :
    p.Yields (p.history answer s) (p.run answer s).1 := by
  induction p generalizing s with
  | done a => exact .here _
  | ask q k ih => exact .ask q k _ (ih _ _)

theorem history_bind (answer : σ → (q : Q) → Reply q × σ) (p : Program Reply α)
    (f : α → Program Reply β) (s : σ) :
    (p.bind f).history answer s =
      p.history answer s ++ (f (p.run answer s).1).history answer (p.run answer s).2 := by
  induction p generalizing s with
  | done a => rfl
  | ask q k ih => exact congrArg (_ :: ·) (ih _ _)

theorem expand_bind (f : (q : Q) → Program Reply' (Reply q)) (p : Program Reply α)
    (g : α → Program Reply β) :
    (p.bind g).expand f = (p.expand f).bind fun a => (g a).expand f := by
  induction p with
  | done a => rfl
  | ask q k ih =>
      show ((f q).bind fun r => ((k r).bind g).expand f) = ((f q).bind _).bind _
      rw [bind_assoc]
      exact congrArg ((f q).bind ·) (funext ih)

/-! ## All questions of a program -/

/-- Every question that a program may ever ask has a property. -/
inductive Asking (P : Q → Prop) : Program Reply α → Prop
  | done (a : α) : Asking P (.done a)
  | ask {q : Q} {k : Reply q → Program Reply α} : P q → (∀ r, Asking P (k r)) → Asking P (.ask q k)

theorem Asking.bind {P : Q → Prop} {p : Program Reply α} {f : α → Program Reply β}
    (hp : p.Asking P) (hf : ∀ a, (f a).Asking P) : (p.bind f).Asking P := by
  induction hp with
  | done a => exact hf a
  | ask hq _ ih => exact .ask hq ih

theorem Asking.mono {P P' : Q → Prop} {p : Program Reply α} (hp : p.Asking P)
    (h : ∀ q, P q → P' q) : p.Asking P' := by
  induction hp with
  | done a => exact .done a
  | ask hq _ ih => exact .ask (h _ hq) ih

theorem Asking.expand {P : Q → Prop} {P' : R → Prop} {f : (q : Q) → Program Reply' (Reply q)}
    {p : Program Reply α} (hp : p.Asking P) (hf : ∀ q, P q → (f q).Asking P') :
    (p.expand f).Asking P' := by
  induction hp with
  | done a => exact .done a
  | ask hq _ ih => exact (hf _ hq).bind ih

theorem Asking.of_reaches {P : Q → Prop} {p rest : Program Reply α} {past : List (Asked Reply)}
    (hp : p.Asking P) (h : p.Reaches past rest) :
    (∀ e ∈ past, P e.question) ∧ rest.Asking P := by
  induction h with
  | here p => exact ⟨by simp, hp⟩
  | ask q k r _ ih =>
      cases hp with
      | ask hq hk =>
          obtain ⟨hpast, hrest⟩ := ih (hk r)
          refine ⟨?_, hrest⟩
          intro e he
          rcases List.mem_cons.1 he with rfl | he
          · exact hq
          · exact hpast e he

/-- The history of a run holds questions of the program only. -/
theorem Asking.of_history {P : Q → Prop} {p : Program Reply α} (hp : p.Asking P)
    (answer : σ → (q : Q) → Reply q × σ) (s : σ) : ∀ e ∈ p.history answer s, P e.question :=
  (hp.of_reaches (yields_run answer p s)).1

/-- What no reply to its questions changes is left as it is by a run. -/
theorem Asking.preserves {P : Q → Prop} {p : Program Reply α} {answer : σ → (q : Q) → Reply q × σ}
    {I : σ → Prop} (hp : p.Asking P) (hstep : ∀ s q, P q → I s → I (answer s q).2) {s : σ}
    (h : I s) : I (p.run answer s).2 := by
  induction hp generalizing s with
  | done a => exact h
  | ask hq _ ih => exact ih _ (hstep _ _ hq h)

/-- Surroundings that reply alike, from states that match, bring a program to the same answer. -/
theorem Asking.simulates {P : Q → Prop} {p : Program Reply α} {answer : σ → (q : Q) → Reply q × σ}
    {answer' : τ → (q : Q) → Reply q × τ} {M : σ → τ → Prop} (hp : p.Asking P)
    (hstep : ∀ s t q, P q → M s t →
      (answer s q).1 = (answer' t q).1 ∧ M (answer s q).2 (answer' t q).2)
    {s : σ} {t : τ} (h : M s t) :
    (p.run answer s).1 = (p.run answer' t).1 ∧ M (p.run answer s).2 (p.run answer' t).2 := by
  induction hp generalizing s t with
  | done a => exact ⟨rfl, h⟩
  | @ask q k hq _ ih =>
      obtain ⟨hreply, hmatch⟩ := hstep s t q hq h
      have hnext : run answer' (.ask q k) t = run answer' (k (answer s q).1) (answer' t q).2 := by
        rw [hreply]
        rfl
      rw [hnext]
      exact ih _ hmatch

/-- So do the histories of the two runs agree. -/
theorem Asking.same_history {P : Q → Prop} {p : Program Reply α}
    {answer : σ → (q : Q) → Reply q × σ} {answer' : τ → (q : Q) → Reply q × τ} {M : σ → τ → Prop}
    (hp : p.Asking P)
    (hstep : ∀ s t q, P q → M s t →
      (answer s q).1 = (answer' t q).1 ∧ M (answer s q).2 (answer' t q).2)
    {s : σ} {t : τ} (h : M s t) : p.history answer s = p.history answer' t := by
  induction hp generalizing s t with
  | done a => rfl
  | @ask q k hq _ ih =>
      obtain ⟨hreply, hmatch⟩ := hstep s t q hq h
      rw [history, history, ← hreply, ih _ hmatch]

/-- If the first part of a sequence never asks a question, the second part is about to ask it. -/
theorem Asking.next_bind {P : Q → Prop} {p : Program Reply α} {f : α → Program Reply β}
    {past : List (Asked Reply)} {q : Q} {k : Reply q → Program Reply β} (hp : p.Asking P)
    (hq : ¬ P q) (h : (p.bind f).Reaches past (.ask q k)) :
    ∃ first second a, past = first ++ second ∧ p.Yields first a ∧
      (f a).Reaches second (.ask q k) := by
  rcases reaches_bind_cases h with ⟨p', hp', hnext⟩ | hsecond
  · obtain ⟨_, hasking⟩ := hp.of_reaches hp'
    cases hasking with
    | done a => exact ⟨past, [], a, (List.append_nil _).symm, hp', hnext ▸ .here _⟩
    | ask hq' _ =>
        cases hnext
        exact absurd hq' hq
  · exact hsecond

/-- If the second part of a sequence never asks a question, the first part is about to ask it. -/
theorem Asking.next_first {P : Q → Prop} {p : Program Reply α} {f : α → Program Reply β}
    {past : List (Asked Reply)} {q : Q} {k : Reply q → Program Reply β}
    (hf : ∀ a, (f a).Asking P) (hq : ¬ P q) (h : (p.bind f).Reaches past (.ask q k)) :
    ∃ k', p.Reaches past (.ask q k') := by
  have hsecond : ∀ a second, ¬ (f a).Reaches second (.ask q k) := by
    intro a second hreach
    obtain ⟨_, hasking⟩ := (hf a).of_reaches hreach
    cases hasking with
    | ask hq' _ => exact hq hq'
  rcases reaches_bind_cases h with ⟨p', hp', hnext⟩ | ⟨_, second, a, _, _, hreach⟩
  · cases p' with
    | done a => exact absurd (hnext ▸ .here (f a)) (hsecond a [])
    | ask q' k' =>
        cases hnext
        exact ⟨k', hp'⟩
  · exact absurd hreach (hsecond a second)

/-! ## Programs that may fail -/

section Failing

variable {ε : Type} {e : ExceptT ε (Program Reply) α} {f : α → ExceptT ε (Program Reply) β}

/-- A sequence goes on after a success, and ends with an error. -/
theorem except_bind : (e >>= f).run = e.run.bind fun
    | .ok a => (f a).run
    | .error err => .done (.error err) := by
  show Program.bind e.run _ = _
  refine congrArg (Program.bind e.run) (funext fun r => ?_)
  cases r <;> rfl

theorem Asking.except_bind {P : Q → Prop} (he : e.run.Asking P) (hf : ∀ a, (f a).run.Asking P) :
    (e >>= f).run.Asking P := by
  rw [Program.except_bind]
  refine he.bind ?_
  rintro (err | a)
  · exact .done _
  · exact hf a

end Failing

/-! ## What running a program brings about -/

/-- Run from a state, a program gives this answer, and leaves a state of this kind behind. -/
def Brings (answer : σ → (q : Q) → Reply q × σ) (p : Program Reply α) (s : σ) (a : α)
    (After : σ → Prop) : Prop :=
  ∃ s', p.run answer s = (a, s') ∧ After s'

theorem Brings.bind {answer : σ → (q : Q) → Reply q × σ} {p : Program Reply α}
    {f : α → Program Reply β} {s : σ} {a : α} {b : β} {After After' : σ → Prop}
    (hp : p.Brings answer s a After)
    (hf : ∀ s', After s' → (f a).Brings answer s' b After') :
    (p.bind f).Brings answer s b After' := by
  obtain ⟨s', hrun, hafter⟩ := hp
  obtain ⟨s'', hrun', hafter'⟩ := hf s' hafter
  refine ⟨s'', ?_, hafter'⟩
  rw [run_bind, hrun]
  exact hrun'

end Program

end HostAgent
