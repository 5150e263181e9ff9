import HostAgent.Proofs.Agent.Questions

/-!
# Tasks and the containers of an engine

A task is carried out by calls to the engine, and its result is drawn from what
they end with. What the calls do to the containers is up to the engine. It is
said by a rule: the containers before a call, the call, its reply, and the
containers after it. A history of calls then leads from the containers at its
start to those at its end, whatever else the engine is like.

## Main results

* `Tasks.execute_deploy`, `Tasks.execute_named`, `Tasks.execute_unnamed`: a task as
  a program on the engine and a conclusion.
* `Keeps.leads`: running what carries a task out leads from containers to containers.
-/

namespace HostAgent

variable {σ α : Type}

/-! ## Rules for an engine -/

/-- What an engine may do on a call: the containers before it, its reply, and the containers after
it. -/
abbrev EngineRule (α : Type) : Type :=
  KeyMap α → (call : EngineCall) → call.Reply → KeyMap α → Prop

/-- An engine that follows a rule. What the agent tells about itself changes no container. -/
structure Keeps (rule : EngineRule α) (answer : σ → (a : Action) → a.Reply × σ)
    (containers : σ → KeyMap α) : Prop where
  call : ∀ s c, rule (containers s) c (answer s (.engine c)).1 (containers (answer s (.engine c)).2)
  notice : ∀ s n, containers (answer s (.notice n)).2 = containers s

/-- By a rule, the calls of a history lead from some containers to others. -/
def Leads (rule : EngineRule α) : KeyMap α → List (Asked Action.Reply) → KeyMap α → Prop
  | f, [], g => g = f
  | f, ⟨.engine c, reply⟩ :: past, h => ∃ g, rule f c reply g ∧ Leads rule g past h
  | f, _ :: past, h => Leads rule f past h

theorem leads_append {rule : EngineRule α} {f h : KeyMap α}
    {past past' : List (Asked Action.Reply)} :
    Leads rule f (past ++ past') h ↔ ∃ g, Leads rule f past g ∧ Leads rule g past' h := by
  induction past generalizing f with
  | nil => simp [Leads]
  | cons x past ih =>
      obtain ⟨q, reply⟩ := x
      cases q with
      | engine c =>
          simp only [List.cons_append, Leads, ih]
          constructor
          · rintro ⟨g₁, hcall, g, hpast, hpast'⟩
            exact ⟨g, ⟨g₁, hcall, hpast⟩, hpast'⟩
          · rintro ⟨g, ⟨g₁, hcall, hpast⟩, hpast'⟩
            exact ⟨g₁, hcall, g, hpast, hpast'⟩
      | _ => exact ih

/-- What a rule allows, a looser one allows too. -/
theorem Leads.mono {rule rule' : EngineRule α} (h : ∀ f c reply g, rule f c reply g →
    rule' f c reply g) {f g : KeyMap α} {past : List (Asked Action.Reply)}
    (hleads : Leads rule f past g) : Leads rule' f past g := by
  induction past generalizing f with
  | nil => exact hleads
  | cons x past ih =>
      obtain ⟨q, reply⟩ := x
      cases q with
      | engine c =>
          obtain ⟨f₁, hcall, hpast⟩ := hleads
          exact ⟨f₁, h _ _ _ _ hcall, ih hpast⟩
      | _ => exact ih hleads

/-- What carries a task out leads from the containers before it to those after it. -/
theorem Keeps.leads {β : Type} {rule : EngineRule α} {answer : σ → (a : Action) → a.Reply × σ}
    {containers : σ → KeyMap α} (h : Keeps rule answer containers) {p : Work β}
    (hp : p.Asking Action.OfExecution) (s : σ) :
    Leads rule (containers s) (p.history answer s) (containers (p.run answer s).2) := by
  induction hp generalizing s with
  | done _ => rfl
  | @ask a _ ha _ ih =>
      cases a with
      | engine c => exact ⟨_, h.call s c, ih _ _⟩
      | notice n =>
          have hrest := ih (answer s (.notice n)).1 (answer s (.notice n)).2
          rw [h.notice] at hrest
          exact hrest
      | _ => exact ha.elim

/-- An engine, and nothing else that would be of any use. -/
def onlyEngine (engine : σ → (c : EngineCall) → c.Reply × σ) (s : σ) : (a : Action) → a.Reply × σ
  | .engine c => engine s c
  | .central _ => (.error .transport, s)
  | .nextEvent => (none, s)
  | .now => (.zero, s)
  | .measure => (⟨default, 0, default, .epoch⟩, s)
  | .subscribe | .sleep _ | .sleepUntil _ | .notice _ => ((), s)

theorem keeps_onlyEngine {rule : EngineRule α}
    {engine : KeyMap α → (c : EngineCall) → c.Reply × KeyMap α}
    (h : ∀ f c, rule f c (engine f c).1 (engine f c).2) : Keeps rule (onlyEngine engine) id :=
  ⟨h, fun _ _ => rfl⟩

namespace Tasks

/-! ## From the engine to a result -/

/-- The history of a single call and of what is made of its reply. -/
theorem yields_call {β : Type} {call : EngineCall} {f : call.Reply → β}
    {past : List (Asked Action.Reply)} {b : β}
    (h : (Program.ask (Action.engine call) fun reply => .done (f reply) : Work β).Yields past b) :
    ∃ reply, past = [⟨.engine call, reply⟩] ∧ b = f reply := by
  obtain ⟨reply, _, rfl, hend⟩ := (Program.yields_ask _ _ _ _).1 h
  obtain ⟨rfl, rfl⟩ := (Program.yields_done _ _ _).1 hend
  exact ⟨reply, rfl, rfl⟩

/-- The result of a task, from what the work on the engine ended with. -/
def concluded (task : Task) : Except EngineError TaskResult → TaskResult
  | .ok result => result
  | .error e => .failed task.containerId e.message

/-- The work on the engine for a task, and then its result. -/
def conclude (task : Task) (p : Work (Except EngineError TaskResult)) : Work TaskResult :=
  p.bind fun r => .done (concluded task r)

section Conclusion

variable (task : Task) (p : Work (Except EngineError TaskResult))
  (answer : σ → (a : Action) → a.Reply × σ) (s : σ)

theorem conclude_run :
    (conclude task p).run answer s = (concluded task (p.run answer s).1, (p.run answer s).2) := by
  rw [conclude, Program.run_bind]
  rfl

theorem conclude_history : (conclude task p).history answer s = p.history answer s := by
  rw [conclude, Program.history_bind]
  exact List.append_nil _

end Conclusion

variable {task : Task}

/-- A task whose work on the engine is a program, and ends with what the program does. -/
theorem execute_of_dispatch {stopTimeoutSecs : Nat} {p : Work (Except EngineError TaskResult)}
    (h : dispatch task stopTimeoutSecs = p.bind fun r => .done (r.mapError .engine)) :
    execute task stopTimeoutSecs = conclude task p := by
  show (dispatch task stopTimeoutSecs).bind _ = _
  rw [h, Program.bind_assoc]
  refine congrArg _ (funext fun r => ?_)
  cases r <;> rfl

theorem execute_deploy (stopTimeoutSecs : Nat) (htype : task.type = .deploy) {spec : ContainerSpec}
    (hspec : task.spec = some spec) :
    execute task stopTimeoutSecs = conclude task (deploy spec) := by
  refine execute_of_dispatch ?_
  simp only [dispatch, htype, hspec, if_true]
  rfl

/-- A task on a container that it names. -/
theorem execute_named (stopTimeoutSecs : Nat) (htype : task.type ≠ .deploy) {id : String}
    (hid : Text.nonEmpty? task.containerId = some id) :
    execute task stopTimeoutSecs =
      conclude task (onContainer task id
        ((task.timeoutSecs.map UInt64.toNat).getD stopTimeoutSecs)) := by
  refine execute_of_dispatch ?_
  simp only [dispatch, htype, hid, if_false]
  rfl

/-- A task on a container that it does not name. -/
theorem execute_unnamed (stopTimeoutSecs : Nat) (htype : task.type ≠ .deploy)
    (hid : Text.nonEmpty? task.containerId = none) :
    execute task stopTimeoutSecs =
      .done (.failed task.containerId (TaskError.missingContainerId task.type.name).message) := by
  simp only [execute, dispatch, htype, hid, if_false]
  rfl

/-- A deletion without force stops the container first, unless there is nothing to stop. -/
theorem delete_unforced (id : String) (timeoutSecs : Nat) :
    delete id false timeoutSecs =
      .ask (.engine (.stop id timeoutSecs)) fun
        | .ok _ => remove id false
        | .error e =>
          if e.isNotModified || e.isNotFound then remove id false else .done (.error e) := rfl

end Tasks

end HostAgent
