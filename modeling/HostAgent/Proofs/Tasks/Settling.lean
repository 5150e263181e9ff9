import HostAgent.Proofs.Reconcile.Events
import HostAgent.Proofs.Reconcile.Records
import HostAgent.Proofs.Tasks.Executing

/-!
# What a task leaves behind

A task is carried out on the engine, its result is reported, and then the
container that was touched is looked at once more, or forgotten if the task has
deleted it. Every call to the engine may fail while the task is carried out, and
so may the report. What the server holds about the container afterwards follows
from the result and from the containers that are there then, and not from the
fate of the report.

## Main results

* `Workplace.run_calm`: what follows a task goes on as if the containers stayed as they are.
* `Tasks.execute_removes`: a task that has deleted a container has left none.
* `Tasks.converge_run`: what is made of the server's state after a task.
* `Tasks.process_settles`: what a whole task asks, and what it leaves behind.
-/

namespace HostAgent

open HostAgent.Action (OfExecution OfHandler)

/-! ## Surroundings of a task -/

section Surroundings

variable {session : CentralSession} {handles : ContainerRequest → Prop}

/-- How things stand with a host: its containers, its line to the server, and all else. -/
structure Situation (srv : CentralServer session.client handles) (ρ : Type) where
  fleet : Fleet
  line : Line srv
  rest : ρ

/-- Nothing that concerns containers differs between two lines. -/
structure Line.Alike {srv : CentralServer session.client handles} (l l' : Line srv) : Prop where
  records : l'.central.records = l.central.records
  ignored : l'.central.ignored = l.central.ignored
  uncached : l.Uncached → l'.Uncached

/-- An engine that does what it promises, and a report that may fail in any way but concerns no
container. Whatever else is asked, the rest replies as it likes. -/
structure Workplace (srv : CentralServer session.client handles) (ρ : Type) where
  engine : Fleet → ρ → (call : EngineCall) → call.Reply × Fleet × ρ
  obeys : ∀ f r call, Fleet.Obeys f (engine f r call).2.1 call (engine f r call).1
  report : Line srv → ρ → String → TaskResult → Except CentralError Unit × Line srv × ρ
  alike : ∀ l r id result, Line.Alike l (report l r id result).2.1
  rest : ρ → (a : Action) → a.Reply × ρ

end Surroundings

namespace Workplace

variable {ρ α : Type} {session : CentralSession} {handles : ContainerRequest → Prop}
  {srv : CentralServer session.client handles} {hostId : String}

def answer (w : Workplace srv ρ) (s : Situation srv ρ) : (a : Action) → a.Reply × Situation srv ρ
  | .engine call =>
    ((w.engine s.fleet s.rest call).1,
      ⟨(w.engine s.fleet s.rest call).2.1, s.line, (w.engine s.fleet s.rest call).2.2⟩)
  | .central (.report id result) =>
    ((w.report s.line s.rest id result).1,
      ⟨s.fleet, (w.report s.line s.rest id result).2.1, (w.report s.line s.rest id result).2.2⟩)
  | .central call =>
    ((s.line.run (session.exchange call)).1,
      ⟨s.fleet, (s.line.run (session.exchange call)).2, s.rest⟩)
  | a => ((w.rest s.rest a).1, ⟨s.fleet, s.line, (w.rest s.rest a).2⟩)

theorem answer_central (w : Workplace srv ρ) (s : Situation srv ρ) {call : CentralCall}
    (hcall : ∀ id result, call ≠ .report id result) :
    w.answer s (.central call) =
      ((s.line.run (session.exchange call)).1,
        ⟨s.fleet, (s.line.run (session.exchange call)).2, s.rest⟩) := by
  cases call with
  | report id result => exact absurd rfl (hcall id result)
  | _ => rfl

/-- The containers stay as they are from now on. -/
def calm (w : Workplace srv ρ) (f : Fleet) : Calm ρ where
  fleet := f
  refs := f.containers.keys.map fun id => ⟨id, id⟩
  listed := by simp [Fleet.Tells, Function.comp_def]
  rest := w.rest

/-- What a handler does changes no container, and so it goes as if they stayed as they are. -/
theorem run_calm (w : Workplace srv ρ) {p : Work α} (hp : p.Asking (OfHandler hostId))
    (s : Situation srv ρ) :
    (p.run w.answer s).1 = (p.run (w.calm s.fleet).answer (s.line, s.rest)).1 ∧
      (p.run w.answer s).2.fleet = s.fleet ∧
      (p.run w.answer s).2.line = (p.run (w.calm s.fleet).answer (s.line, s.rest)).2.1 := by
  -- The rest may differ, since all that it replies to a handler is that it took a notice.
  refine hp.simulates (M := fun (t : Situation srv ρ) (q : Line srv × ρ) =>
    t.fleet = s.fleet ∧ t.line = q.1) ?_ ⟨rfl, rfl⟩
  rintro t ⟨line, rest⟩ a ha ⟨hfleet, rfl⟩
  cases a with
  | engine call =>
      cases call with
      | inspect id =>
          obtain ⟨hsame, htrue⟩ := w.obeys t.fleet t.rest (.inspect id)
          rw [hfleet] at htrue
          exact ⟨(congrArg (fun f => (w.engine f t.rest _).1) hfleet).trans htrue,
            hsame.trans hfleet, rfl⟩
      | _ => exact ha.elim
  | central call =>
      have hcall : ∀ id result, call ≠ .report id result := by
        rintro id result rfl
        exact ha
      rw [w.answer_central t hcall]
      exact ⟨rfl, hfleet, rfl⟩
  | notice n => exact ⟨rfl, hfleet, rfl⟩
  | _ => exact ha.elim

/-- Carrying a task out asks nothing of the server. -/
theorem line_of_execution (w : Workplace srv ρ) {p : Work α} (hp : p.Asking OfExecution)
    (s : Situation srv ρ) : (p.run w.answer s).2.line = s.line := by
  refine hp.preserves (I := fun (t : Situation srv ρ) => t.line = s.line) ?_ rfl
  intro t a ha hline
  cases a with
  | central call => exact ha.elim
  | _ => exact hline

end Workplace

namespace Tasks

variable {ρ : Type} {session : CentralSession} {handles : ContainerRequest → Prop}
  {srv : CentralServer session.client handles}

/-! ## Containers that are deleted -/

section Removing

variable (w : Workplace srv ρ) (s : Situation srv ρ) (id : String)

/-- If a container was removed, or was found to be absent, then it is not there. -/
theorem remove_removes (force : Bool) {result : TaskResult}
    (h : ((remove id force).run w.answer s).1 = .ok result) :
    result.containerId = some id ∧ ¬ ((remove id force).run w.answer s).2.fleet.Present id := by
  have hobeys := w.obeys s.fleet s.rest (.remove id force false)
  have hrun : attempt id (w.engine s.fleet s.rest (.remove id force false)).1 "container deleted"
      EngineError.isNotFound "container already absent" = .ok result := h
  show _ ∧ ¬ (w.engine s.fleet s.rest (.remove id force false)).2.1.Present id
  revert hobeys hrun
  cases (w.engine s.fleet s.rest (.remove id force false)).1 with
  | ok _ =>
      intro hvanish hrun
      cases hrun
      exact ⟨rfl, (Fleet.Moves.gone_of_vanish hvanish).not_present⟩
  | error e =>
      rintro ⟨hsame, habsent⟩ hrun
      rw [hsame]
      rw [attempt] at hrun
      split at hrun
      · rename_i hnotFound
        cases hrun
        exact ⟨rfl, habsent hnotFound⟩
      · cases hrun

theorem delete_removes (force : Bool) (timeoutSecs : Nat) {result : TaskResult}
    (h : ((delete id force timeoutSecs).run w.answer s).1 = .ok result) :
    result.containerId = some id ∧
      ¬ ((delete id force timeoutSecs).run w.answer s).2.fleet.Present id := by
  cases force with
  | true => exact remove_removes w s id true h
  | false =>
      rw [delete_unforced] at h ⊢
      simp only [Program.run] at h ⊢
      revert h
      cases (w.answer s (.engine (.stop id timeoutSecs))).1 with
      | ok _ => exact remove_removes w _ id false
      | error e =>
          dsimp only
          split
          · exact remove_removes w _ id false
          · intro h
            cases h

end Removing

/-- A task that has deleted a container has left none. -/
theorem execute_removes (w : Workplace srv ρ) (s : Situation srv ρ) {task : Task}
    (stopTimeoutSecs : Nat) (htype : task.type = .delete)
    (hsuccess : ((execute task stopTimeoutSecs).run w.answer s).1.success = true) :
    ∃ id, ((execute task stopTimeoutSecs).run w.answer s).1.containerId = some id ∧
      ¬ ((execute task stopTimeoutSecs).run w.answer s).2.fleet.Present id := by
  have hnot : task.type ≠ .deploy := by
    rw [htype]
    decide
  cases hid : Text.nonEmpty? task.containerId with
  | none =>
      rw [execute_unnamed stopTimeoutSecs hnot hid] at hsuccess
      cases hsuccess
  | some id =>
      let timeoutSecs := (task.timeoutSecs.map UInt64.toNat).getD stopTimeoutSecs
      have hdelete : onContainer task id timeoutSecs = delete id task.force timeoutSecs := by
        rw [onContainer, htype]
      rw [execute_named stopTimeoutSecs hnot hid, hdelete, conclude_run] at hsuccess ⊢
      cases hresult : ((delete id task.force timeoutSecs).run w.answer s).1 with
      | ok result => exact ⟨id, delete_removes w s id task.force timeoutSecs hresult⟩
      | error e =>
          rw [hresult] at hsuccess
          cases hsuccess

/-! ## What follows a task -/

/-- The container that a task has touched, if any. -/
def touched (task : Task) (result : TaskResult) : Option String :=
  result.containerId.or task.containerId

/-- The event that a task amounts to for the container that it has touched. -/
def meaning (task : Task) (result : TaskResult) : EventAction :=
  if task.type = .delete ∧ result.success = true then .gone else .resync false

/-- What a task leaves of the server's state, by its result and the containers there are then. -/
structure Settled (f : Fleet) (hostId : String) (task : Task) (result : TaskResult)
    (s s' : CentralState) : Prop where
  deleted : task.type = .delete → result.success = true →
    ∃ id, touched task result = some id ∧ ¬ f.Present id ∧ s'.records.get? id = none ∧
      id ∉ s'.ignored
  synced : ∀ id d, touched task result = some id →
    ¬ (task.type = .delete ∧ result.success = true) →
    f.containers.get? id = some d → id ∉ s.ignored →
      ∃ r, s'.records.get? id = some r ∧ r.Describes d hostId
  kept : ∀ id, touched task result = some id →
    ¬ (task.type = .delete ∧ result.success = true) →
    ¬ f.Present id ∨ id ∈ s.ignored → s'.records.get? id = s.records.get? id
  ignored : ¬ (task.type = .delete ∧ result.success = true) → s'.ignored = s.ignored
  records_of_others : ∀ id, touched task result ≠ some id →
    s'.records.get? id = s.records.get? id
  ignored_of_others : s'.ignored.filter (touched task result ≠ some ·) =
    s.ignored.filter (touched task result ≠ some ·)

/-- The server's state after what follows a task. -/
def aftermath (f : Fleet) (hostId : String) (task : Task) (result : TaskResult)
    (s : CentralState) : CentralState :=
  match touched task result with
  | none => s
  | some id => (meaning task result).effect f hostId id s

theorem aftermath_settled {f : Fleet} {hostId : String} {task : Task} {result : TaskResult}
    {s s₀ : CentralState} (hrecords : s.records = s₀.records) (hignored : s.ignored = s₀.ignored)
    (hremoved : task.type = .delete → result.success = true →
      ∃ id, result.containerId = some id ∧ ¬ f.Present id) :
    Settled f hostId task result s₀ (aftermath f hostId task result s) where
  deleted := by
    intro htype hsuccess
    obtain ⟨id, hid, habsent⟩ := hremoved htype hsuccess
    have htouched : touched task result = some id := by
      rw [touched, hid]
      rfl
    refine ⟨id, htouched, habsent, ?_⟩
    rw [aftermath, htouched, meaning, if_pos ⟨htype, hsuccess⟩]
    refine ⟨?_, (s.drop id).not_mem_unignore id⟩
    simp [EventAction.effect, CentralState.forget, CentralState.drop, CentralState.unignore]
  synced := by
    intro id d htouched hnot hd hid
    rw [aftermath, htouched, meaning, if_neg hnot]
    exact CentralState.learn_describes hd (hignored ▸ hid)
  kept := by
    intro id htouched hnot hid
    rw [aftermath, htouched, meaning, if_neg hnot]
    show (s.learn f hostId id).records.get? id = _
    rw [CentralState.learn_get?, hignored, hrecords]
    rcases hid with habsent | hid
    · have hnone : f.containers.get? id = none :=
        Option.eq_none_iff_forall_ne_some.2 fun d hd => habsent ⟨d, hd⟩
      simp [hnone]
    · simp [hid]
  ignored := by
    intro hnot
    rw [aftermath, meaning, if_neg hnot, ← hignored]
    cases touched task result with
    | none => rfl
    | some id => exact CentralState.learn_ignored ..
  records_of_others := by
    intro id hid
    rw [aftermath, ← hrecords]
    cases htouched : touched task result with
    | none => rfl
    | some id' =>
        have hne : id ≠ id' := by
          rintro rfl
          exact hid htouched
        exact EventAction.effect_records _ _ _ _ _ hne
  ignored_of_others := by
    rw [aftermath, ← hignored]
    cases touched task result with
    | none => rfl
    | some id =>
        have hothers := EventAction.effect_ignored f hostId id s (meaning task result)
        simpa [eq_comm] using hothers

/-- What follows a task does to the server's state what the event does that the task amounts to. -/
theorem converge_brings {c : Calm ρ} {p : Line srv × ρ} (hostId : String) (task : Task)
    (result : TaskResult) (hcache : p.1.Uncached)
    (hserved : ∀ id r, touched task result = some id →
      (meaning task result).Asks c.fleet hostId id r → handles r) :
    c.Brings p (converge hostId task result) () fun s =>
      s = aftermath c.fleet hostId task result p.1.central := by
  rw [aftermath]
  cases htouched : touched task result with
  | none =>
      rw [converge, show result.containerId.or task.containerId = none from htouched]
      refine Calm.pure_brings hcache ?_ ()
      rfl
  | some id =>
      rw [converge, show result.containerId.or task.containerId = some id from htouched]
      have hasked := hserved id
      rw [meaning] at hasked ⊢
      by_cases hdeleted : task.type = .delete ∧ result.success = true
      · simp only [if_pos hdeleted] at hasked ⊢
        refine (Reconcile.forget_brings hcache (hasked _ htouched .delete)
          (hasked _ htouched .unignore)).bind ?_
        intro p₁ hcache₁ hcentral₁
        exact Calm.pure_brings hcache₁ hcentral₁ ()
      · simp only [if_neg hdeleted] at hasked ⊢
        obtain ⟨outcome, hsync⟩ := Reconcile.syncOne_learns hcache
          fun d hd r hr => hasked r htouched (.sync hd hr)
        refine hsync.bind ?_
        intro p₁ hcache₁ hcentral₁
        exact Calm.pure_brings hcache₁ hcentral₁ ()

theorem converge_run (w : Workplace srv ρ) (s : Situation srv ρ) (hostId : String)
    (task : Task) (result : TaskResult) (hcache : s.line.Uncached)
    (hserved : ∀ id r, touched task result = some id →
      (meaning task result).Asks s.fleet hostId id r → handles r) :
    ∃ s', (converge hostId task result).run w.answer s = ((), s') ∧ s'.fleet = s.fleet ∧
      s'.line.central = aftermath s.fleet hostId task result s.line.central := by
  obtain ⟨-, hfleet, hline⟩ := w.run_calm (converge_asking hostId task result) s
  obtain ⟨p, hrun, -, hcentral⟩ :=
    converge_brings (c := w.calm s.fleet) (p := (s.line, s.rest)) hostId task result hcache hserved
  rw [hrun] at hline
  refine ⟨_, rfl, hfleet, ?_⟩
  rw [hline]
  exact hcentral

/-- Nothing is asked after a task that has touched no container. -/
theorem converge_of_untouched (hostId : String) {task : Task} {result : TaskResult}
    (h : touched task result = none) : converge hostId task result = .done () := by
  rw [converge, show result.containerId.or task.containerId = none from h]
  rfl

/-- The engine is not asked after a task that has deleted a container. -/
theorem converge_spares (hostId : String) {task : Task} {result : TaskResult}
    (htype : task.type = .delete) (hsuccess : result.success = true) :
    (converge hostId task result).Asking fun a => ∀ call, a ≠ .engine call := by
  unfold converge
  split
  · exact .done _
  · rw [if_pos ⟨htype, hsuccess⟩]
    exact (Reconcile.forget_spares _).bind fun _ => .done _

/-! ## The whole task -/

/-- What is left to do with a task when its result is there. -/
def afterExecution (hostId : String) (task : Task) (kept : Unreported) (result : TaskResult) :
    Work Unreported := do
  Work.count (.taskExecuted result.success)
  Work.log hostId (.taskCompleted task.id task.type.name result.success result.containerId
    result.message)
  let reported ← Work.central (.report task.id result)
  let kept := if reported.isOk then kept else kept.insert task.id result
  converge hostId task result
  return kept

theorem process_eq (hostId : String) (stopTimeoutSecs : Nat) (task : Task) (kept : Unreported) :
    process hostId stopTimeoutSecs task kept =
      (execute task stopTimeoutSecs).bind (afterExecution hostId task kept) := rfl

/-- Once there is a result, it is noted and reported, and then the container is looked after. -/
theorem afterExecution_run (w : Workplace srv ρ) (s : Situation srv ρ) (hostId : String)
    (task : Task) (kept : Unreported) (result : TaskResult) :
    ∃ (notices : List (Asked Action.Reply)) (reply : Except CentralError Unit)
      (s' : Situation srv ρ),
      s'.fleet = s.fleet ∧ s.line.Alike s'.line ∧
      (∀ x ∈ notices, ∃ n, x.question = .notice n) ∧
      (afterExecution hostId task kept result).run w.answer s =
        (if reply.isOk then kept else kept.insert task.id result,
          ((converge hostId task result).run w.answer s').2) ∧
      (afterExecution hostId task kept result).history w.answer s =
        notices ++ ⟨.central (.report task.id result), reply⟩ ::
          (converge hostId task result).history w.answer s' := by
  let counted : Action := .notice (.series (.taskExecuted result.success))
  let logged : Action := .notice (.event hostId
    (.taskCompleted task.id task.type.name result.success result.containerId result.message))
  let s₁ := (w.answer s counted).2
  let s₂ := (w.answer s₁ logged).2
  refine ⟨[⟨counted, (w.answer s counted).1⟩, ⟨logged, (w.answer s₁ logged).1⟩],
    (w.answer s₂ (.central (.report task.id result))).1,
    (w.answer s₂ (.central (.report task.id result))).2, rfl, ?_, ?_, ?_, ?_⟩
  · exact w.alike s.line s₂.rest task.id result
  · simp [counted, logged]
  · show ((converge hostId task result).bind _).run w.answer _ = _
    rw [Program.run_bind]
    rfl
  · show _ :: _ :: _ :: ((converge hostId task result).bind _).history w.answer _ = _
    rw [Program.history_bind]
    show _ :: _ :: _ :: (_ ++ []) = _
    rw [List.append_nil]
    rfl

/-- Up to the report, nothing is asked of the server, and no container is looked at. -/
theorem before_report {a : Action} (h : a.OfExecution ∨ ∃ n, a = .notice n) :
    (∀ call, a ≠ .central call) ∧ ∀ id, a ≠ .engine (.inspect id) := by
  rcases h with h | ⟨n, rfl⟩
  · constructor
    · rintro call rfl
      exact h
    · rintro id rfl
      exact h
  · exact ⟨fun _ => Action.noConfusion, fun _ => Action.noConfusion⟩

/-- A task is carried out without a question to the server, its result is reported once, and all
that follows comes after the report. The result is kept just if the report fails, and nothing else
depends on that. With no container touched, nothing more is asked. If the task has deleted a
container, it is never looked at, and neither its record nor its ignore entry is left. Otherwise its
record is what the container is after the task, if it is there and not ignored. All other records
and entries stay as they are. -/
theorem process_settles (w : Workplace srv ρ) (s : Situation srv ρ) (hostId : String)
    (stopTimeoutSecs : Nat) (task : Task) (kept : Unreported) (hcache : s.line.Uncached)
    (hserved : ∀ id r,
      touched task ((execute task stopTimeoutSecs).run w.answer s).1 = some id →
      (meaning task ((execute task stopTimeoutSecs).run w.answer s).1).Asks
        ((execute task stopTimeoutSecs).run w.answer s).2.fleet hostId id r → handles r) :
    ∃ result s₁ before reply after s',
      (execute task stopTimeoutSecs).run w.answer s = (result, s₁) ∧
      (process hostId stopTimeoutSecs task kept).run w.answer s =
        (if reply.isOk then kept else kept.insert task.id result, s') ∧
      (process hostId stopTimeoutSecs task kept).history w.answer s =
        before ++ ⟨.central (.report task.id result), reply⟩ :: after ∧
      (∀ x ∈ before, ∀ call, x.question ≠ .central call) ∧
      (∀ x ∈ after, ∀ id other, x.question ≠ .central (.report id other)) ∧
      (task.type = .delete → result.success = true →
        ∀ x ∈ before ++ after, ∀ id, x.question ≠ .engine (.inspect id)) ∧
      (touched task result = none → after = []) ∧
      s'.fleet = s₁.fleet ∧
      Settled s₁.fleet hostId task result s.line.central s'.line.central := by
  rcases hexecute : (execute task stopTimeoutSecs).run w.answer s with ⟨result, s₁⟩
  have hexecution := execute_asking task stopTimeoutSecs
  have hline : s₁.line = s.line := by
    have hsame := w.line_of_execution hexecution s
    rwa [hexecute] at hsame
  rw [hexecute] at hserved
  -- The report leaves the line alike, so what follows starts from what was there before the task.
  obtain ⟨notices, reply, s₂, hfleet, halike, hnotices, hrun, hhistory⟩ :=
    afterExecution_run w s₁ hostId task kept result
  rw [hline] at halike
  obtain ⟨s', hconverge, hfleet', hcentral⟩ := converge_run w s₂ hostId task result
    (halike.uncached hcache) (by rwa [hfleet])
  rw [hfleet] at hfleet' hcentral
  have hbefore : ∀ x ∈ (execute task stopTimeoutSecs).history w.answer s ++ notices,
      (∀ call, x.question ≠ .central call) ∧ ∀ id, x.question ≠ .engine (.inspect id) := by
    intro x hx
    refine before_report ?_
    rcases List.mem_append.1 hx with hx | hx
    · exact .inl (hexecution.of_history w.answer s x hx)
    · exact .inr (hnotices x hx)
  refine ⟨result, s₁, (execute task stopTimeoutSecs).history w.answer s ++ notices, reply,
    (converge hostId task result).history w.answer s₂, s', rfl, ?_, ?_, ?_, ?_, ?_, ?_, hfleet', ?_⟩
  · rw [process_eq, Program.run_bind, hexecute, hrun, hconverge]
  · rw [process_eq, Program.history_bind, hexecute, hhistory, List.append_assoc]
  · exact fun x hx => (hbefore x hx).1
  · intro x hx id other hreport
    have hasked := (converge_asking hostId task result).of_history w.answer s₂ x hx
    rw [hreport] at hasked
    exact hasked
  · intro htype hsuccess x hx id hinspect
    rcases List.mem_append.1 hx with hx | hx
    · exact (hbefore x hx).2 id hinspect
    · exact (converge_spares hostId htype hsuccess).of_history w.answer s₂ x hx _ hinspect
  · intro huntouched
    rw [converge_of_untouched hostId huntouched]
    rfl
  · rw [hcentral]
    refine aftermath_settled halike.records halike.ignored ?_
    intro htype hsuccess
    have hremoves := execute_removes w s stopTimeoutSecs htype
    rw [hexecute] at hremoves
    exact hremoves hsuccess

/-! A container that runs is to be started, and the report of that fails. The result is kept, and
the server learns of the container nevertheless. -/

/-- An engine on which every container runs, and that has no time for anything. -/
def idleEngine (f : Fleet) : (call : EngineCall) → call.Reply
  | .inspect id => f.inspect id
  | .start id => .error (if f.containers.contains id then .notModified id else .notFound id)
  | _ => .error (.unavailable "busy")

/-- The server cannot be reached for a report. -/
def idleWorkplace : Workplace Reconcile.webServer Unit where
  engine f r call := (idleEngine f call, f, r)
  obeys f _ call := by
    cases call with
    | inspect id => exact ⟨rfl, rfl⟩
    | remove id force volumes => exact ⟨rfl, fun h => nomatch h⟩
    | _ => rfl
  report l r _ _ := (.error .transport, l, r)
  alike _ _ _ _ := ⟨rfl, rfl, id⟩
  rest := Reconcile.pairCalm.rest

def idleStart : Situation Reconcile.webServer Unit :=
  ⟨.single web, ⟨Reconcile.lateWriteStart.server, .empty .zero, .zero⟩, ()⟩

def startRunning : Task :=
  { id := "t1", type := .start, hostId := none, containerId := some "x", spec := none,
    force := false, timeoutSecs := none, result := none }

/-- The only result. -/
def alreadyRunning : TaskResult := .succeeded (some "x") "container already running"

theorem execute_startRunning :
    (execute startRunning 10).run idleWorkplace.answer idleStart = (alreadyRunning, idleStart) :=
  rfl

theorem process_startRunning :
    ((process "h1" 10 startRunning ∅).run idleWorkplace.answer idleStart).1 =
      (∅ : Unreported).insert "t1" alreadyRunning := by
  decide +kernel

/-- Although the report fails, the server learns of the container. -/
theorem process_settles_running :
    ∃ s', (process "h1" 10 startRunning ∅).run idleWorkplace.answer idleStart =
        ((∅ : Unreported).insert "t1" alreadyRunning, s') ∧
      s'.line.central.records.get? "x" = some
        { id := "x", name := "web", image := "nginx:1.25", status := .running, hostId := "h1",
          ports := [], env := ∅, createdAt := none } := by
  have hserved : ∀ id r,
      touched startRunning ((execute startRunning 10).run idleWorkplace.answer idleStart).1 =
        some id →
      (meaning startRunning
        ((execute startRunning 10).run idleWorkplace.answer idleStart).1).Asks
        ((execute startRunning 10).run idleWorkplace.answer idleStart).2.fleet "h1" id r →
      r ∈ Reconcile.webRequests := by
    rw [execute_startRunning]
    intro id r htouched hasks
    cases htouched
    cases hasks with
    | sync hd hr =>
        cases hd
        exact List.mem_append_right _ hr
  obtain ⟨result, s₁, before, reply, after, s', hexecute, hrun, -, -, -, -, -, -, hsettled⟩ :=
    process_settles idleWorkplace idleStart "h1" 10 startRunning ∅ rfl hserved
  rw [execute_startRunning] at hexecute
  cases hexecute
  have hkept := process_startRunning
  rw [hrun] at hkept
  refine ⟨s', ?_, ?_⟩
  · rw [hrun]
    exact congrArg (·, s') hkept
  · obtain ⟨r, hrecord, hdescribes⟩ :=
      hsettled.synced "x" web rfl (by decide) rfl List.not_mem_nil
    rw [hrecord, (r.describes_iff web "h1").1 hdescribes]
    rfl

end Tasks

end HostAgent
