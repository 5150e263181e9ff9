import HostAgent.Proofs.Tasks.Executing

/-!
# Starting, stopping, restarting and deleting containers

A task on a container that is there already asks the engine once, or twice if the
container is stopped before it is removed. It succeeds not only if the engine has
done what was asked, but also if there was nothing to do. The engine says that a
container is not there, or already is as it was to be made, and may be in trouble
for any other reason, which leaves the containers as they are.

What a task amounts to is written down without the calls, by what becomes of the
containers. A task that succeeds has always brought this about, and without
trouble every task does. Done a second time it changes nothing.

## Main results

* `onContainer_tends`: the calls of a task on a container, and what comes of them.
* `Tending.achieves`: a success is what it says.
* `Tending.settles`: without trouble it is known what comes of a task.
* `execute_truthful`: the whole of a task on a container.
-/

namespace HostAgent

/-! ## Replies -/

/-- What the reply to a call says about the container that the call is about. -/
inductive Verdict
  | done
  | absent
  | already
  | trouble
deriving DecidableEq, Repr

def EngineError.verdict : EngineError → Verdict
  | notFound _ => .absent
  | notModified _ => .already
  | _ => .trouble

def Verdict.of {β : Type} : Except EngineError β → Verdict
  | .ok _ => .done
  | .error e => e.verdict

theorem isNotFound_iff (e : EngineError) : e.isNotFound = true ↔ e.verdict = .absent := by
  cases e <;> simp [EngineError.verdict, EngineError.isNotFound]

theorem isNotModified_iff (e : EngineError) : e.isNotModified = true ↔ e.verdict = .already := by
  cases e <;> simp [EngineError.verdict, EngineError.isNotModified]

theorem isTrouble_iff (e : EngineError) :
    (e.isNotModified || e.isNotFound) = false ↔ e.verdict = .trouble := by
  cases e <;> simp [EngineError.verdict, EngineError.isNotModified, EngineError.isNotFound]

theorem verdict_error_ne_done (e : EngineError) : e.verdict ≠ .done := by
  cases e <;> simp [EngineError.verdict]

/-- The container that a call is to change. -/
def EngineCall.target? : EngineCall → Option String
  | .start id | .stop id _ | .restart id _ | .remove id _ _ => some id
  | _ => none

/-! ## Engines -/

/-- What comes of a call to make a container run, or to make it stop running. -/
def turn (f : KeyMap Bool) (id : String) (running : Bool) : Verdict × KeyMap Bool :=
  match f.get? id with
  | none => (.absent, f)
  | some r => if r = running then (.already, f) else (.done, f.insert id running)

/-- What an engine does that has no trouble. Each of its containers runs or does not. Starting one
that runs and stopping one that does not has been done already; one that runs is not removed but by
force; and no call finds a container that is not there. -/
def Does : EngineRule Bool
  | f, .start id, reply, g => (Verdict.of reply, g) = turn f id true
  | f, .stop id _, reply, g => (Verdict.of reply, g) = turn f id false
  | f, .restart id _, reply, g =>
    (Verdict.of reply, g) = if f.contains id then (.done, f.insert id true) else (.absent, f)
  | f, .remove id force _, reply, g =>
    if f.get? id = some true ∧ force = false then
      Verdict.of reply ≠ .done ∧ Verdict.of reply ≠ .absent ∧ g = f
    else (Verdict.of reply, g) = if f.contains id then (.done, f.erase id) else (.absent, f)
  | _, _, _, _ => True

/-- An engine that may be in trouble at any call, and changes nothing then. -/
def Tries : EngineRule Bool := fun f call reply g =>
  Does f call reply g ∨ Verdict.of reply = .trouble ∧ g = f

section Calls

variable {f g : KeyMap Bool} {id : String} {timeoutSecs : Nat} {force volumes : Bool}
  {reply : Except EngineError Unit}

theorem turn_eq {running : Bool} {v : Verdict} (h : (v, g) = turn f id running)
    (hv : v = .done ∨ v = .already) : f.contains id = true ∧ g = f.insert id running := by
  unfold turn at h
  split at h
  · cases h
    simp at hv
  · rename_i r hid
    have hthere : f.contains id = true := by simp [KeyMap.contains, hid]
    split at h <;> cases h
    · rename_i hsame
      exact ⟨hthere, (KeyMap.insert_of_get? (hsame ▸ hid)).symm⟩
    · exact ⟨hthere, rfl⟩

theorem turn_frame {running : Bool} {v : Verdict} (h : (v, g) = turn f id running) :
    g.erase id = f.erase id := by
  unfold turn at h
  split at h
  · cases h
    rfl
  · split at h <;> cases h
    · rfl
    · exact f.erase_insert id running

theorem turn_absent {running : Bool} {v : Verdict} (h : (v, g) = turn f id running)
    (hv : ¬ (v = .done ∨ v = .already)) : f.contains id = false ∧ g = f := by
  unfold turn at h
  split at h
  · rename_i hid
    cases h
    exact ⟨by simp [KeyMap.contains, hid], rfl⟩
  · split at h <;> cases h <;> simp at hv

theorem turn_runs {running : Bool} {v : Verdict} (h : (v, g) = turn f id running) :
    v ≠ .trouble ∧ g.get? id ≠ some !running := by
  unfold turn at h
  split at h
  · rename_i hid
    cases h
    simp [hid]
  · rename_i r hid
    split at h <;> cases h
    · rename_i hsame
      simp [hid, hsame]
    · simp

/-- A container that does not run can be removed, and any by force. -/
theorem does_remove (h : Does f (.remove id force volumes) reply g)
    (hidle : f.get? id = some true → force = true) :
    Verdict.of reply = .done ∨ Verdict.of reply = .absent := by
  have hnot : ¬ (f.get? id = some true ∧ force = false) := by
    rintro ⟨hruns, hforce⟩
    rw [hidle hruns] at hforce
    cases hforce
  rw [Does, if_neg hnot] at h
  split at h
  · exact .inl (Prod.mk.inj h).1
  · exact .inr (Prod.mk.inj h).1

theorem tries_start (h : Tries f (.start id) reply g)
    (hreply : Verdict.of reply = .done ∨ Verdict.of reply = .already) :
    f.contains id = true ∧ g = f.insert id true := by
  rcases h with h | ⟨htrouble, -⟩
  · exact turn_eq h hreply
  · simp [htrouble] at hreply

theorem tries_stop (h : Tries f (.stop id timeoutSecs) reply g)
    (hreply : Verdict.of reply = .done ∨ Verdict.of reply = .already) :
    f.contains id = true ∧ g = f.insert id false := by
  rcases h with h | ⟨htrouble, -⟩
  · exact turn_eq h hreply
  · simp [htrouble] at hreply

theorem tries_restart (h : Tries f (.restart id timeoutSecs) reply g)
    (hreply : Verdict.of reply = .done) : f.contains id = true ∧ g = f.insert id true := by
  rcases h with h | ⟨htrouble, -⟩
  · simp only [Does] at h
    split at h <;> simp_all
  · simp [htrouble] at hreply

theorem tries_remove (h : Tries f (.remove id force volumes) reply g)
    (hreply : Verdict.of reply = .done ∨ Verdict.of reply = .absent) : g = f.erase id := by
  rcases h with h | ⟨htrouble, -⟩
  · simp only [Does] at h
    split at h
    · rcases hreply with hreply | hreply
      · exact absurd hreply h.1
      · exact absurd hreply h.2.1
    · split at h
      · exact (Prod.mk.inj h).2
      · rename_i habsent
        have hnone : f.get? id = none := by simpa [KeyMap.contains] using habsent
        rw [KeyMap.erase_of_get? hnone]
        exact (Prod.mk.inj h).2
  · simp [htrouble] at hreply

/-- A call leaves all containers alone but the one that it is about. -/
theorem tries_frame {call : EngineCall} {reply : call.Reply} (h : Tries f call reply g)
    (hcall : call.target? = some id) : g.erase id = f.erase id := by
  rcases h with h | ⟨-, rfl⟩
  · cases call with
    | start id' | stop id' _ =>
        cases hcall
        exact turn_frame h
    | restart id' _ =>
        cases hcall
        simp only [Does] at h
        split at h <;> simp_all [KeyMap.erase_insert]
    | remove id' _ _ =>
        cases hcall
        simp only [Does] at h
        split at h
        · rw [h.2.2]
        · split at h <;> simp_all [KeyMap.erase_erase]
    | _ => cases hcall
  · rfl

end Calls

namespace Tasks

/-! ## What tasks amount to -/

/-- Without trouble: does the task succeed, and what are the containers after it? -/
def effect (f : KeyMap Bool) (id : String) : TaskType → Bool × KeyMap Bool
  | .delete => (true, f.erase id)
  | .stop => if f.contains id then (true, f.insert id false) else (false, f)
  | .start | .restart | .deploy => if f.contains id then (true, f.insert id true) else (false, f)

/-- What a task has brought about, it would not change again. -/
theorem effect_effect (f : KeyMap Bool) (id : String) (type : TaskType) :
    effect (effect f id type).2 id type = effect f id type := by
  have hkept : ∀ running, (f.insert id running).contains id = true := by
    intro running
    rw [KeyMap.contains_insert]
    simp
  cases type with
  | delete => exact congrArg (true, ·) (f.erase_erase id)
  | _ => by_cases hid : f.contains id = true <;> simp [effect, hid, hkept, KeyMap.insert_insert]

/-! ## The language of tasks on containers -/

/-- What is asked for a task on a container, and what comes of it. -/
inductive Tending (id : String) (timeoutSecs : Nat) (force : Bool) :
    TaskType → List (Asked Action.Reply) → Except EngineError TaskResult → Prop
  | start (started : (EngineCall.start id).Reply) :
      Tending id timeoutSecs force .start [⟨.engine (.start id), started⟩]
        (attempt id started "container started" EngineError.isNotModified
          "container already running")
  | stop (stopped : (EngineCall.stop id timeoutSecs).Reply) :
      Tending id timeoutSecs force .stop [⟨.engine (.stop id timeoutSecs), stopped⟩]
        (attempt id stopped "container stopped" EngineError.isNotModified
          "container already stopped")
  | restart (restarted : (EngineCall.restart id timeoutSecs).Reply) :
      Tending id timeoutSecs force .restart [⟨.engine (.restart id timeoutSecs), restarted⟩]
        (restarted.map fun _ => .succeeded (some id) "container restarted")
  | forced (removed : (EngineCall.remove id true false).Reply) : force = true →
      Tending id timeoutSecs force .delete [⟨.engine (.remove id true false), removed⟩]
        (attempt id removed "container deleted" EngineError.isNotFound "container already absent")
  | removed {stopped : (EngineCall.stop id timeoutSecs).Reply}
      (removed : (EngineCall.remove id false false).Reply) : force = false →
      Verdict.of stopped ≠ .trouble →
      Tending id timeoutSecs force .delete
        [⟨.engine (.stop id timeoutSecs), stopped⟩, ⟨.engine (.remove id false false), removed⟩]
        (attempt id removed "container deleted" EngineError.isNotFound "container already absent")
  | refused (e : EngineError) : force = false → e.verdict = .trouble →
      Tending id timeoutSecs force .delete [⟨.engine (.stop id timeoutSecs), .error e⟩] (.error e)

section Tends

variable {id : String} {timeoutSecs : Nat} {force : Bool} {type : TaskType}
  {past : List (Asked Action.Reply)} {result : Except EngineError TaskResult}

theorem delete_tends (h : (delete id force timeoutSecs).Yields past result) :
    Tending id timeoutSecs force .delete past result := by
  cases force with
  | true =>
      obtain ⟨removed, rfl, rfl⟩ := yields_call h
      exact .forced removed rfl
  | false =>
      rw [delete_unforced] at h
      obtain ⟨stopped, rest, rfl, hrest⟩ := (Program.yields_ask _ _ _ _).1 h
      cases stopped with
      | ok _ =>
          obtain ⟨removed, rfl, rfl⟩ := yields_call hrest
          exact .removed removed rfl (by simp [Verdict.of])
      | error e =>
          dsimp only at hrest
          split at hrest
          · rename_i hfine
            obtain ⟨removed, rfl, rfl⟩ := yields_call hrest
            refine .removed removed rfl fun htrouble => ?_
            rw [(isTrouble_iff e).2 htrouble] at hfine
            cases hfine
          · rename_i hfine
            obtain ⟨rfl, rfl⟩ := (Program.yields_done _ _ _).1 hrest
            exact .refused e rfl ((isTrouble_iff e).1 (Bool.eq_false_iff.2 hfine))

theorem onContainer_tends {task : Task} (htype : task.type ≠ .deploy)
    (h : (onContainer task id timeoutSecs).Yields past result) :
    Tending id timeoutSecs task.force task.type past result := by
  unfold onContainer at h
  cases hkind : task.type with
  | deploy => exact absurd hkind htype
  | delete =>
      rw [hkind] at h
      exact delete_tends h
  | start =>
      rw [hkind] at h
      obtain ⟨reply, rfl, rfl⟩ := yields_call h
      exact .start reply
  | stop =>
      rw [hkind] at h
      obtain ⟨reply, rfl, rfl⟩ := yields_call h
      exact .stop reply
  | restart =>
      rw [hkind] at h
      obtain ⟨reply, rfl, rfl⟩ := yields_call h
      exact .restart reply

/-! ## What comes of a task -/

theorem attempt_isOk_iff {call : EngineCall} (reply : call.Reply) (done already : String)
    {fine : EngineError → Bool} {v : Verdict} (hfine : ∀ e, fine e = true ↔ e.verdict = v) :
    (attempt id reply done fine already).isOk = true ↔
      Verdict.of reply = .done ∨ Verdict.of reply = v := by
  cases reply with
  | ok _ => simp [attempt, Verdict.of, Except.isOk, Except.toBool]
  | error e =>
      by_cases h : fine e = true
      · simp [attempt, h, Verdict.of, (hfine e).1 h, Except.isOk, Except.toBool]
      · have hne : e.verdict ≠ v := fun hv => h ((hfine e).2 hv)
        simp [attempt, h, Verdict.of, hne, verdict_error_ne_done, Except.isOk, Except.toBool]

/-- A task succeeds if its work on the engine does. -/
theorem Tending.success_eq (h : Tending id timeoutSecs force type past result) (task : Task) :
    (concluded task result).success = result.isOk := by
  have hattempt : ∀ {call : EngineCall} (reply : call.Reply) (done already : String)
      (fine : EngineError → Bool),
      (concluded task (attempt id reply done fine already)).success =
        (attempt id reply done fine already).isOk := by
    intro call reply done already fine
    cases reply with
    | ok _ => rfl
    | error e => by_cases hfine : fine e = true <;> simp only [attempt, hfine] <;> rfl
  cases h with
  | start _ | stop _ | forced _ _ | removed _ _ _ => exact hattempt _ _ _ _
  | restart reply => cases reply <;> rfl
  | refused _ _ _ => rfl

/-- A task asks about its own container alone. -/
theorem Tending.about (h : Tending id timeoutSecs force type past result) :
    ∀ x ∈ past, ∃ call, x.question = .engine call ∧ call.target? = some id := by
  cases h <;> simp [EngineCall.target?]

/-- A task that has succeeded has brought about what it amounts to. -/
theorem Tending.achieves {f g : KeyMap Bool} (h : Tending id timeoutSecs force type past result)
    (hleads : Leads Tries f past g) (hok : result.isOk = true) : effect f id type = (true, g) := by
  cases h with
  | start started =>
      obtain ⟨f₁, hcall, rfl⟩ := hleads
      obtain ⟨hid, rfl⟩ := tries_start hcall ((attempt_isOk_iff _ _ _ isNotModified_iff).1 hok)
      simp [effect, hid]
  | stop stopped =>
      obtain ⟨f₁, hcall, rfl⟩ := hleads
      obtain ⟨hid, rfl⟩ := tries_stop hcall ((attempt_isOk_iff _ _ _ isNotModified_iff).1 hok)
      simp [effect, hid]
  | restart restarted =>
      obtain ⟨f₁, hcall, rfl⟩ := hleads
      cases restarted with
      | ok _ =>
          obtain ⟨hid, rfl⟩ := tries_restart hcall rfl
          simp [effect, hid]
      | error _ => cases hok
  | forced removed _ =>
      obtain ⟨f₁, hcall, rfl⟩ := hleads
      rw [tries_remove hcall ((attempt_isOk_iff _ _ _ isNotFound_iff).1 hok)]
      rfl
  | removed removed _ _ =>
      obtain ⟨f₁, hstop, f₂, hremove, rfl⟩ := hleads
      rw [tries_remove hremove ((attempt_isOk_iff _ _ _ isNotFound_iff).1 hok),
        tries_frame hstop rfl]
      rfl
  | refused _ _ _ => cases hok

/-- Without trouble, nothing keeps a container from being deleted. -/
theorem Tending.deletes {f g : KeyMap Bool} (h : Tending id timeoutSecs force .delete past result)
    (hleads : Leads Does f past g) : result.isOk = true := by
  cases h with
  | forced removed hforce =>
      obtain ⟨f₁, hcall, -⟩ := hleads
      exact (attempt_isOk_iff _ _ _ isNotFound_iff).2 (does_remove hcall fun _ => rfl)
  | removed removed _ _ =>
      obtain ⟨f₁, hstop, f₂, hremove, -⟩ := hleads
      refine (attempt_isOk_iff _ _ _ isNotFound_iff).2 (does_remove hremove fun hruns => ?_)
      exact absurd hruns (turn_runs hstop).2
  | refused e _ htrouble =>
      obtain ⟨f₁, hstop, -⟩ := hleads
      exact absurd htrouble (turn_runs hstop).1

/-- Without trouble, it is known what comes of a task. -/
theorem Tending.settles {f g : KeyMap Bool} (h : Tending id timeoutSecs force type past result)
    (hleads : Leads Does f past g) : effect f id type = (result.isOk, g) := by
  cases hok : result.isOk with
  | true => exact h.achieves (hleads.mono fun _ _ _ _ => .inl) hok
  | false =>
      have hkept : type ≠ .delete := by
        rintro rfl
        rw [h.deletes hleads] at hok
        cases hok
      cases h with
      | start started =>
          obtain ⟨f₁, hcall, rfl⟩ := hleads
          have hnot := mt (attempt_isOk_iff _ _ _ isNotModified_iff).2 (Bool.eq_false_iff.1 hok)
          obtain ⟨hid, rfl⟩ := turn_absent hcall hnot
          simp [effect, hid]
      | stop stopped =>
          obtain ⟨f₁, hcall, rfl⟩ := hleads
          have hnot := mt (attempt_isOk_iff _ _ _ isNotModified_iff).2 (Bool.eq_false_iff.1 hok)
          obtain ⟨hid, rfl⟩ := turn_absent hcall hnot
          simp [effect, hid]
      | restart restarted =>
          obtain ⟨f₁, hcall, rfl⟩ := hleads
          cases restarted with
          | ok _ => cases hok
          | error e =>
              rw [Does] at hcall
              split at hcall
              · exact absurd (Prod.mk.inj hcall).1 (verdict_error_ne_done e)
              · rename_i hid
                rw [(Prod.mk.inj hcall).2]
                simp [effect, hid]
      | forced _ _ | removed _ _ _ | refused _ _ _ => exact absurd rfl hkept

/-- All other containers stay as they are. -/
theorem leads_frame {f g : KeyMap Bool} (hleads : Leads Tries f past g)
    (habout : ∀ x ∈ past, ∃ call, x.question = .engine call ∧ call.target? = some id) :
    g.erase id = f.erase id := by
  induction past generalizing f with
  | nil => exact congrArg (KeyMap.erase · id) hleads
  | cons x past ih =>
      obtain ⟨⟨call, hcall, htarget⟩, hrest⟩ := List.forall_mem_cons.1 habout
      obtain ⟨q, reply⟩ := x
      cases hcall
      obtain ⟨f₁, hstep, hpast⟩ := hleads
      exact (ih hpast hrest).trans (tries_frame hstep htarget)

end Tends

/-! ## A task on a container -/

/-- The condition in which a task of this type is to bring a container. -/
def Fulfilled (f : KeyMap Bool) (id : String) : TaskType → Prop
  | .delete => f.get? id = none
  | .stop => f.get? id = some false
  | .start | .restart | .deploy => f.get? id = some true

theorem fulfilled_of_effect {f g : KeyMap Bool} {id : String} {type : TaskType}
    (h : effect f id type = (true, g)) : Fulfilled g id type := by
  cases type with
  | delete =>
      cases h
      simp [Fulfilled]
  | _ =>
      simp only [effect] at h
      split at h <;> cases h
      simp [Fulfilled]

theorem Tending.no_stop {id : String} {timeoutSecs : Nat} {past : List (Asked Action.Reply)}
    {result : Except EngineError TaskResult} (h : Tending id timeoutSecs true .delete past result) :
    ∀ x ∈ past, ∀ id timeoutSecs, x.question ≠ .engine (.stop id timeoutSecs) := by
  cases h <;> simp_all

theorem Tending.no_remove {id : String} {timeoutSecs : Nat} {past : List (Asked Action.Reply)}
    {result : Except EngineError TaskResult} (h : Tending id timeoutSecs false .delete past result)
    {id' : String} {timeoutSecs' : Nat} {e : EngineError}
    (hfailed : ⟨.engine (.stop id' timeoutSecs'), .error e⟩ ∈ past)
    (htrouble : e.verdict = .trouble) :
    ∀ x ∈ past, ∀ id force volumes, x.question ≠ .engine (.remove id force volumes) := by
  cases h with
  | forced _ hforce => cases hforce
  | removed _ _ hstopped =>
      simp at hfailed
      obtain ⟨⟨rfl, rfl⟩, hreply⟩ := hfailed
      cases hreply
      exact absurd htrouble hstopped
  | refused _ _ _ => simp

/-- The language of a whole task. -/
theorem execute_tends {σ : Type} (answer : σ → (a : Action) → a.Reply × σ) (s : σ)
    (stopTimeoutSecs : Nat) {task : Task} (htype : task.type ≠ .deploy) {id : String}
    (hid : Text.nonEmpty? task.containerId = some id) :
    ∃ timeoutSecs result,
      Tending id timeoutSecs task.force task.type
        ((execute task stopTimeoutSecs).history answer s) result ∧
      ((execute task stopTimeoutSecs).run answer s).1 = concluded task result := by
  rw [execute_named stopTimeoutSecs htype hid, conclude_history, conclude_run]
  exact ⟨_, _, onContainer_tends htype (Program.yields_run answer _ s), rfl⟩

/-- A task on a container brings the container into the condition that it is for, if it succeeds,
whatever trouble the engine is in. It asks about no other container and changes none. A deletion by
force never stops the container first, and one without force does not remove it if stopping it has
failed for any other reason than that there was nothing to stop. If the engine is in no trouble, a
second execution succeeds just if the first has, and leaves the containers as they are. -/
theorem execute_truthful {σ : Type} {answer : σ → (a : Action) → a.Reply × σ}
    {containers : σ → KeyMap Bool} (htries : Keeps Tries answer containers) (s : σ)
    (stopTimeoutSecs : Nat) {task : Task} (htype : task.type ≠ .deploy) :
    let past := (execute task stopTimeoutSecs).history answer s
    let once := (execute task stopTimeoutSecs).run answer s
    (once.1.success = true →
      ∃ id, task.containerId = some id ∧ Fulfilled (containers once.2) id task.type) ∧
    (∀ x ∈ past, ∃ id call, task.containerId = some id ∧ x.question = .engine call ∧
      call.target? = some id) ∧
    (∀ other, task.containerId ≠ some other →
      (containers once.2).get? other = (containers s).get? other) ∧
    (task.type = .delete → task.force = true →
      ∀ x ∈ past, ∀ id timeoutSecs, x.question ≠ .engine (.stop id timeoutSecs)) ∧
    (task.type = .delete → task.force = false →
      ∀ id timeoutSecs e, ⟨.engine (.stop id timeoutSecs), .error e⟩ ∈ past →
        e.isNotModified = false → e.isNotFound = false →
        ∀ x ∈ past, ∀ id force volumes, x.question ≠ .engine (.remove id force volumes)) ∧
    (Keeps Does answer containers →
      let twice := (execute task stopTimeoutSecs).run answer once.2
      twice.1.success = once.1.success ∧ containers twice.2 = containers once.2) := by
  intro past once
  cases hid : Text.nonEmpty? task.containerId with
  | none =>
      obtain ⟨message, hexecute⟩ : ∃ message, execute task stopTimeoutSecs =
          .done (.failed task.containerId message) :=
        ⟨_, execute_unnamed stopTimeoutSecs htype hid⟩
      have hpast : past = [] := by
        show (execute task stopTimeoutSecs).history answer s = _
        rw [hexecute]
        rfl
      have hrun : ∀ s, (execute task stopTimeoutSecs).run answer s =
          (.failed task.containerId message, s) := by
        intro s
        rw [hexecute]
        rfl
      have honce : once = (.failed task.containerId message, s) := hrun s
      rw [hpast, honce]
      refine ⟨fun hok => Bool.noConfusion hok, by simp, fun _ _ => rfl, by simp, by simp, ?_⟩
      intro _ twice
      have htwice : twice = (.failed task.containerId message, s) := hrun s
      rw [htwice]
      exact ⟨rfl, rfl⟩
  | some id =>
      have hcontainer : task.containerId = some id := (Option.filter_eq_some_iff.1 hid).1
      have hasking := execute_asking task stopTimeoutSecs
      obtain ⟨timeoutSecs, result, htends, hresult⟩ :=
        execute_tends answer s stopTimeoutSecs htype hid
      have hsuccess : once.1.success = result.isOk := by
        rw [← htends.success_eq task, ← hresult]
      have hleads := htries.leads hasking s
      refine ⟨?_, ?_, ?_, ?_, ?_, ?_⟩
      · intro hok
        exact ⟨id, hcontainer,
          fulfilled_of_effect (htends.achieves hleads (hsuccess.symm.trans hok))⟩
      · intro x hx
        obtain ⟨call, hcall, htarget⟩ := htends.about x hx
        exact ⟨id, call, hcontainer, hcall, htarget⟩
      · intro other hother
        have hne : other ≠ id := by
          rintro rfl
          exact hother hcontainer
        have hframe := congrArg (KeyMap.get? · other) (leads_frame hleads htends.about)
        simpa [hne] using hframe
      · intro hdelete hforce
        rw [hdelete, hforce] at htends
        exact htends.no_stop
      · intro hdelete hforce id' timeoutSecs' e hfailed hmodified hfound
        rw [hdelete, hforce] at htends
        exact htends.no_remove hfailed ((isTrouble_iff e).1 (by simp [hmodified, hfound]))
      · intro hdoes twice
        obtain ⟨timeoutSecs', result', htends', hresult'⟩ :=
          execute_tends answer once.2 stopTimeoutSecs htype hid
        have hfirst := htends.settles (hdoes.leads hasking s)
        have hsecond := htends'.settles (hdoes.leads hasking once.2)
        have hsame := effect_effect (containers s) id task.type
        rw [hfirst] at hsame
        obtain ⟨hagain, hkept⟩ := Prod.mk.inj (hsecond.symm.trans hsame)
        refine ⟨?_, hkept⟩
        rw [hsuccess, ← hagain, ← htends'.success_eq task, ← hresult']

/-! A container that runs is deleted without force, and then once more. -/

def replied (id : String) : Verdict → Except EngineError Unit
  | .done => .ok ()
  | .absent => .error (.notFound id)
  | .already => .error (.notModified id)
  | .trouble => .error (.operation "remove" id "it is running")

/-- An engine that never is in trouble. It neither lists containers nor creates any. -/
def steadyEngine (f : KeyMap Bool) : (call : EngineCall) → call.Reply × KeyMap Bool
  | .start id => (replied id (turn f id true).1, (turn f id true).2)
  | .stop id _ => (replied id (turn f id false).1, (turn f id false).2)
  | .restart id _ =>
    if f.contains id then (.ok (), f.insert id true) else (.error (.notFound id), f)
  | .remove id force _ =>
    if f.get? id = some true ∧ force = false then (replied id .trouble, f)
    else if f.contains id then (.ok (), f.erase id)
    else (.error (.notFound id), f)
  | _ => (.error (.unavailable "nothing to tell"), f)

theorem steadyEngine_does : Keeps Does (onlyEngine steadyEngine) id := by
  have hreply : ∀ (v : Verdict) (id : String), Verdict.of (replied id v) = v := by
    intro v id
    cases v <;> rfl
  refine keeps_onlyEngine fun f c => ?_
  cases c with
  | start id | stop id _ => simp [Does, steadyEngine, hreply]
  | restart id _ =>
      by_cases hid : f.contains id = true <;>
        simp [Does, steadyEngine, hid, Verdict.of, EngineError.verdict]
  | remove id force _ =>
      by_cases hruns : f.get? id = some true ∧ force = false
      · simp [Does, steadyEngine, hruns, hreply]
      · by_cases hid : f.contains id = true <;>
          simp [Does, steadyEngine, hruns, hid, Verdict.of, EngineError.verdict]
  | _ => trivial

def deleteWeb : Task :=
  { id := "t1", type := .delete, hostId := none, containerId := some "web", spec := none
    force := false, timeoutSecs := none, result := none }

/-- The first execution stops and removes the container, the second finds it absent; both succeed,
and the other container runs on. -/
theorem execute_truthful_deleted :
    let engine := onlyEngine steadyEngine
    let before : KeyMap Bool := (KeyMap.insert ∅ "db" true).insert "web" true
    let once := (execute deleteWeb 10).run engine before
    let twice := (execute deleteWeb 10).run engine once.2
    deleteWeb.type ≠ .deploy ∧ Keeps Tries engine id ∧ Keeps Does engine id ∧
    once.1 = .succeeded (some "web") "container deleted" ∧
    once.2.get? "web" = none ∧ once.2.get? "db" = some true ∧
    twice.1 = .succeeded (some "web") "container already absent" ∧ twice.2 = once.2 := by
  intro engine before once twice
  have htries : Keeps Tries engine id :=
    ⟨fun f c => .inl (steadyEngine_does.call f c), steadyEngine_does.notice⟩
  have htype : deleteWeb.type ≠ .deploy := by decide
  obtain ⟨htrue, -, hframe, -, -, htwice⟩ := execute_truthful htries before 10 htype
  obtain ⟨id, hid, habsent⟩ := htrue (by decide +kernel)
  cases hid
  refine ⟨htype, htries, steadyEngine_does, by decide +kernel, habsent, ?_, by decide +kernel,
    (htwice steadyEngine_does).2⟩
  rw [show once.2.get? "db" = before.get? "db" from hframe "db" (by decide)]
  decide +kernel

end Tasks

end HostAgent
