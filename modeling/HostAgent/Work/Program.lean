/-!
# Programs

A program is a value: an answer, or a question to its surroundings and what to
do with each reply. What a question means is not fixed. A state that answers
questions runs a program to its end (`Program.run`); a program over
other questions for each question turns a program into a finer one
(`Program.expand`); and several programs can take turns one question at a
time, since a program shows its next question.

## Main results

* `Program.bind_assoc`, `Program.bind_done`: the laws of a monad.
* `Program.run_bind`: a sequence runs its parts one after the other.
* `Program.run_expand`: a finer program does what the questions it stands for do.
-/

namespace HostAgent

/-- An answer, or a question and what to do with the reply. -/
inductive Program {Q : Type} (Reply : Q → Type) (α : Type) : Type
  | done (value : α)
  | ask (question : Q) (next : Reply question → Program Reply α)

namespace Program

variable {Q R : Type} {Reply : Q → Type} {Reply' : R → Type} {α β γ σ : Type}

def bind (p : Program Reply α) (f : α → Program Reply β) : Program Reply β :=
  match p with
  | .done a => f a
  | .ask q k => .ask q fun r => (k r).bind f

instance : Monad (Program Reply) where
  pure := .done
  bind := bind

/-- The question alone. -/
def question (q : Q) : Program Reply (Reply q) := .ask q .done

theorem bind_done (p : Program Reply α) : p.bind .done = p := by
  induction p with
  | done => rfl
  | ask q k ih => exact congrArg (Program.ask q) (funext ih)

theorem bind_assoc (p : Program Reply α) (f : α → Program Reply β) (g : β → Program Reply γ) :
    (p.bind f).bind g = p.bind fun a => (f a).bind g := by
  induction p with
  | done => rfl
  | ask q k ih => exact congrArg (Program.ask q) (funext ih)

/-- Ask a state that answers every question. -/
def run (answer : σ → (q : Q) → Reply q × σ) : Program Reply α → σ → α × σ
  | .done a, s => (a, s)
  | .ask q k, s =>
    let (r, s) := answer s q
    (k r).run answer s

theorem run_bind (answer : σ → (q : Q) → Reply q × σ) (p : Program Reply α)
    (f : α → Program Reply β) (s : σ) :
    (p.bind f).run answer s = (f (p.run answer s).1).run answer (p.run answer s).2 := by
  induction p generalizing s with
  | done => rfl
  | ask q k ih => exact ih _ _

/-- Put a program over finer questions in the place of each question. -/
def expand (f : (q : Q) → Program Reply' (Reply q)) : Program Reply α → Program Reply' α
  | .done a => .done a
  | .ask q k => (f q).bind fun r => (k r).expand f

theorem run_expand (f : (q : Q) → Program Reply' (Reply q))
    (answer : σ → (q : R) → Reply' q × σ) (p : Program Reply α) (s : σ) :
    (p.expand f).run answer s = p.run (fun s q => (f q).run answer s) s := by
  induction p generalizing s with
  | done => rfl
  | ask q k ih =>
    show ((f q).bind fun r => (k r).expand f).run answer s = _
    rw [run_bind, ih]
    rfl

end Program

end HostAgent
