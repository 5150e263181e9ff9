import HostAgent.Proofs.Agent.Questions
import HostAgent.Proofs.Tasks.Ledger

/-!
# Reading the deeds of a poll off its history

Whatever the engine and the central server reply, the history of a poll shows
its deeds. The first report of a result follows right after the notice that the
task was completed; every other report is one of a kept result. All else that a
poll does, carrying tasks out and syncing containers, shows no deed.

Each part of a poll is a path of the machine of kept results. Sending kept
results again is a path of `Deed.resent`, and going through the listed tasks a
path of `Deed.executed` for the tasks that are not left alone.

## Main results

* `accepted_reply`: a deed tells of an acceptance only where one was replied.
* `flush_path`, `processEach_path`: the parts of a poll as paths.
* `yields_processEach_cons`: what becomes of the first of the listed tasks.
* `processEach_append`: going through some tasks and then others is going through all.
* `yields_pollOnce`: a poll is its flush, the listing, and then the listed tasks.
-/

namespace HostAgent.Tasks

/-! ## From questions to deeds -/

/-- Does the agent say that a task was completed? -/
def isCompletion : Action → Bool
  | .notice (.event _ (.taskCompleted ..)) => true
  | _ => false

/-- Does an action show a deed, or tell how the next one is to be read? -/
def isTelling : Action → Bool
  | .central (.report ..) | .central (.pendingTasks _) => true
  | a => isCompletion a

/-- The deed that a single reply shows, right after a completion or not. -/
def deed? (completed : Bool) : Asked Action.Reply → Option Deed
  | ⟨.central (.report id result), reply⟩ =>
    some (if completed then .executed id result reply.isOk else .resent id result reply.isOk)
  | ⟨.central (.pendingTasks _), .ok tasks⟩ => some (.listed tasks)
  | _ => none

/-- The deeds that a history shows. -/
def deeds : Bool → List (Asked Action.Reply) → List Deed
  | _, [] => []
  | completed, e :: rest => (deed? completed e).toList ++ deeds (isCompletion e.question) rest

/-- A history shows just these deeds, and what comes after it is read as if it came alone. -/
def Reads (past : List (Asked Action.Reply)) (ds : List Deed) : Prop :=
  ∀ rest, deeds false (past ++ rest) = ds ++ deeds false rest

theorem Reads.nil : Reads [] [] := fun _ => rfl

theorem Reads.append {past past' : List (Asked Action.Reply)} {ds ds' : List Deed}
    (h : Reads past ds) (h' : Reads past' ds') : Reads (past ++ past') (ds ++ ds') := by
  intro rest
  rw [List.append_assoc, h, h', List.append_assoc]

theorem Reads.deeds_eq {past : List (Asked Action.Reply)} {ds : List Deed}
    (h : Reads past ds) : deeds false past = ds := by
  simpa [deeds] using h []

/-- A single reply that is not a completion. -/
theorem Reads.single (e : Asked Action.Reply) (h : isCompletion e.question = false) :
    Reads [e] (deed? false e).toList := by
  intro rest
  simp [deeds, h]

/-- Questions that tell nothing show no deed. -/
theorem Reads.of_silent {past : List (Asked Action.Reply)}
    (h : ∀ e ∈ past, isTelling e.question = false) : Reads past [] := by
  induction past with
  | nil => exact .nil
  | cons e past ih =>
      have he : isTelling e.question = false := h e List.mem_cons_self
      have hread : Reads [e] [] := by
        obtain ⟨q, r⟩ := e
        have hcompletion : isCompletion q = false := by
          revert he
          cases q with
          | central call => cases call <;> simp [isTelling, isCompletion]
          | _ => simp [isTelling]
        have hdeed : deed? false ⟨q, r⟩ = none := by
          cases q with
          | central call => cases call <;> simp_all [isTelling, deed?]
          | _ => rfl
        simpa [hdeed] using Reads.single ⟨q, r⟩ hcompletion
      exact hread.append (ih fun e' he' => h e' (List.mem_cons_of_mem _ he'))

/-- A deed with an accepted report shows a report that got a success in reply. -/
theorem accepted_reply {id : String} {result : TaskResult} {past : List (Asked Action.Reply)}
    {completed : Bool} (h : Accepted id result (deeds completed past)) :
    ⟨.central (.report id result), .ok ()⟩ ∈ past := by
  induction past generalizing completed with
  | nil => simp [deeds, Accepted] at h
  | cons e past ih =>
      simp only [deeds, Accepted, List.mem_append, Option.mem_toList] at h
      have hcases : (deed? completed e = some (.executed id result true) ∨
          deed? completed e = some (.resent id result true)) ∨
          Accepted id result (deeds (isCompletion e.question) past) := by
        rcases h with (h | h) | (h | h)
        · exact .inl (.inl h)
        · exact .inr (.inl h)
        · exact .inl (.inr h)
        · exact .inr (.inr h)
      rcases hcases with h | h
      · have he : e = ⟨.central (.report id result), .ok ()⟩ := by
          obtain ⟨q, reply⟩ := e
          cases q with
          | central call =>
              cases call with
              | report id' result' =>
                  cases reply <;> cases completed <;>
                    simp_all [deed?, Except.isOk, Except.toBool]
              | pendingTasks _ => cases reply <;> simp [deed?] at h
              | _ => simp [deed?] at h
          | _ => simp [deed?] at h
        rw [he]
        exact List.mem_cons_self
      · exact List.mem_cons_of_mem _ (ih h)

/-! ## Work that shows no deed -/

/-- A program that never asks anything telling. -/
abbrev Silent {α : Type} (p : Work α) : Prop := p.Asking fun a => isTelling a = false

theorem Silent.reads {α : Type} {p : Work α} (hp : Silent p) {past : List (Asked Action.Reply)}
    {a : α} (h : p.Yields past a) : Reads past [] :=
  .of_silent (hp.of_reaches h).1

theorem silent_execute (task : Task) (stopTimeoutSecs : Nat) :
    Silent (execute task stopTimeoutSecs) := by
  refine (execute_asking task stopTimeoutSecs).mono fun a ha => ?_
  cases a with
  | engine call => rfl
  | notice n => cases n <;> first | rfl | exact ha.elim
  | _ => exact ha.elim

theorem silent_converge (hostId : String) (task : Task) (result : TaskResult) :
    Silent (converge hostId task result) := by
  refine (converge_asking hostId task result).mono fun a ha => ?_
  cases a with
  | engine call => rfl
  | central call => cases call <;> first | rfl | exact ha.elim
  | notice n => cases n <;> first | rfl | exact ha.elim
  | _ => exact ha.elim

/-! ## The parts of a poll -/

/-- A flush sends kept results, each once: every entry that is kept is reported again, and nothing
else is done. -/
theorem flush_path {es : List (String × TaskResult)} {kept kept' : Unreported}
    {past : List (Asked Action.Reply)} (h : (flush es kept).Yields past kept')
    (hkept : ∀ e ∈ es, kept.get? e.1 = some e.2) (hnodup : (es.map (·.1)).Nodup) :
    ∃ ds, Reads past ds ∧ Path kept ds kept' ∧
      ∀ d ∈ ds, ∃ id result accepted, d = .resent id result accepted := by
  induction es generalizing kept past with
  | nil =>
      obtain ⟨rfl, rfl⟩ := (Program.yields_done _ _ _).1 h
      exact ⟨[], .nil, .nil _, by simp⟩
  | cons e es ih =>
      obtain ⟨id, result⟩ := e
      obtain ⟨hnew, hrest⟩ := List.nodup_cons.1 hnodup
      have hhead : kept.get? id = some result := hkept _ List.mem_cons_self
      obtain ⟨reply, rest, rfl, hnext⟩ := (Program.yields_ask _ _ _ _).1 h
      have hread := Reads.single (⟨.central (.report id result), reply⟩ : Asked Action.Reply) rfl
      -- The entries still to come are untouched, whether this one was erased or not.
      have hstep : ∃ kept₁, Step kept (.resent id result reply.isOk) kept₁ ∧
          (flush es kept₁).Yields rest kept' ∧ ∀ e ∈ es, kept₁.get? e.1 = some e.2 := by
        cases reply with
        | ok _ =>
            refine ⟨kept.erase id, .resend kept id result true hhead, hnext, ?_⟩
            intro e he
            have hne : e.1 ≠ id := fun heq => hnew (List.mem_map.2 ⟨e, he, heq⟩)
            rw [KeyMap.get?_erase, if_neg hne]
            exact hkept e (List.mem_cons_of_mem _ he)
        | error _ =>
            exact ⟨kept, .resend kept id result false hhead, hnext,
              fun e he => hkept e (List.mem_cons_of_mem _ he)⟩
      obtain ⟨kept₁, hstep, hflush, hkept₁⟩ := hstep
      obtain ⟨ds, hds, hpath, hall⟩ := ih hflush hkept₁ hrest
      refine ⟨.resent id result reply.isOk :: ds, hread.append hds, .cons hstep hpath, ?_⟩
      intro d hd
      rcases List.mem_cons.1 hd with rfl | hd
      · exact ⟨id, result, reply.isOk, rfl⟩
      · exact hall d hd

/-- Processing a task that nothing is kept of executes it, and the one deed of that carries what
the execution resulted in. -/
theorem process_path {hostId : String} {stopTimeoutSecs : Nat} {task : Task}
    {kept kept' : Unreported} {past : List (Asked Action.Reply)}
    (h : (process hostId stopTimeoutSecs task kept).Yields past kept')
    (hfree : kept.get? task.id = none) :
    ∃ first second result accepted, past = first ++ second ∧
      (execute task stopTimeoutSecs).Yields first result ∧
      Reads past [.executed task.id result accepted] ∧
      Step kept (.executed task.id result accepted) kept' := by
  obtain ⟨first, second, result, rfl, hexecute, hcount⟩ := (Program.yields_bind _ _ _ _).1 h
  obtain ⟨⟨⟩, _, rfl, hlog⟩ := (Program.yields_ask _ _ _ _).1 hcount
  obtain ⟨⟨⟩, _, rfl, hreport⟩ := (Program.yields_ask _ _ _ _).1 hlog
  obtain ⟨reply, _, rfl, hreply⟩ := (Program.yields_ask _ _ _ _).1 hreport
  have hsync : ((converge hostId task result).bind fun _ =>
      .done (if reply.isOk then kept else kept.insert task.id result)).Yields _ kept' := hreply
  obtain ⟨third, fourth, ⟨⟩, rfl, hconverge, hend⟩ := (Program.yields_bind _ _ _ _).1 hsync
  obtain ⟨rfl, rfl⟩ := (Program.yields_done _ _ _).1 hend
  have hthird : Reads third [] := (silent_converge _ _ _).reads hconverge
  refine ⟨first, _, result, reply.isOk, rfl, hexecute, ?_,
    .execute kept task.id result reply.isOk hfree⟩
  refine (silent_execute _ _ |>.reads hexecute).append ?_
  intro rest
  simpa [deeds, deed?, isCompletion] using hthird rest

/-- Listed tasks that carry no result, and whose result was not sent again just before. -/
def openTasks (resent : List String) (tasks : List Task) : List Task :=
  tasks.filter fun t => t.result.isNone && !resent.contains t.id

theorem openTasks_cons (resent : List String) (task : Task) (tasks : List Task) :
    openTasks resent (task :: tasks) =
      if task.result.isNone && !resent.contains task.id then task :: openTasks resent tasks
      else openTasks resent tasks :=
  List.filter_cons

/-- A task has its turn if it is open and nothing is kept of it. -/
theorem isDone_eq_false_iff (resent : List String) (kept : Unreported) (task : Task) :
    isDone resent kept task = false ↔
      (task.result.isNone && !resent.contains task.id) = true ∧ kept.get? task.id = none := by
  simp [isDone, KeyMap.contains, and_assoc]

/-- The first of the listed tasks is left alone or processed, and then the others have their
turn. -/
theorem yields_processEach_cons {hostId : String} {stopTimeoutSecs : Nat} {resent : List String}
    {task : Task} {tasks : List Task} {kept kept' : Unreported} {past : List (Asked Action.Reply)}
    {n : Nat}
    (h : (processEach hostId stopTimeoutSecs resent (task :: tasks) kept).Yields past (n, kept')) :
    (isDone resent kept task = true ∧
        (processEach hostId stopTimeoutSecs resent tasks kept).Yields past (n, kept')) ∨
      isDone resent kept task = false ∧ ∃ first second kept₁ m, past = first ++ second ∧
        n = m + 1 ∧ (process hostId stopTimeoutSecs task kept).Yields first kept₁ ∧
          (processEach hostId stopTimeoutSecs resent tasks kept₁).Yields second (m, kept') := by
  unfold processEach at h
  split at h
  · rename_i hdone
    exact .inl ⟨hdone, h⟩
  · rename_i hdone
    obtain ⟨first, _, kept₁, rfl, hprocess, hnext⟩ := (Program.yields_bind _ _ _ _).1 h
    obtain ⟨second, third, ⟨m, kept₂⟩, rfl, hrest, hend⟩ := (Program.yields_bind _ _ _ _).1 hnext
    obtain ⟨rfl, heq⟩ := (Program.yields_done _ _ _).1 hend
    cases heq
    exact .inr ⟨Bool.eq_false_iff.2 hdone, first, second, kept₁, m, by rw [List.append_nil], rfl,
      hprocess, hrest⟩

/-- Listed tasks are executed one after another, but for those that are done; the number of
executions is the one that is told in the end. -/
theorem processEach_path {hostId : String} {stopTimeoutSecs : Nat} {resent : List String}
    {tasks : List Task} {kept kept' : Unreported} {past : List (Asked Action.Reply)} {n : Nat}
    (h : (processEach hostId stopTimeoutSecs resent tasks kept).Yields past (n, kept')) :
    ∃ ds, Reads past ds ∧ Path kept ds kept' ∧
      (executedIds ds).length = n ∧
      (executedIds ds).Sublist ((openTasks resent tasks).map Task.id) ∧
      (∀ d ∈ ds, ∃ id result accepted, d = .executed id result accepted) ∧
      ∀ task ∈ openTasks resent tasks, kept.get? task.id = none → task.id ∈ executedIds ds := by
  induction tasks generalizing kept past n with
  | nil =>
      obtain ⟨rfl, heq⟩ := (Program.yields_done _ _ _).1 h
      cases heq
      exact ⟨[], .nil, .nil _, rfl, by simp [executedIds], by simp, by simp [openTasks]⟩
  | cons task tasks ih =>
      rcases yields_processEach_cons h with ⟨hdone, hrest⟩ |
        ⟨hdone, first, second, kept₁, m, rfl, rfl, hprocess, hrest⟩
      · obtain ⟨ds, hread, hpath, hcount, hsub, hall, hopen⟩ := ih hrest
        refine ⟨ds, hread, hpath, hcount, hsub.trans (List.Sublist.map _ ?_), hall, ?_⟩
        · exact List.Sublist.filter _ (List.sublist_cons_self _ _)
        · intro task' htask' hfree
          obtain ⟨hmem, hnew⟩ := List.mem_filter.1 htask'
          rcases List.mem_cons.1 hmem with rfl | hmem
          · rw [(isDone_eq_false_iff _ _ _).2 ⟨hnew, hfree⟩] at hdone
            cases hdone
          · exact hopen task' (List.mem_filter.2 ⟨hmem, hnew⟩) hfree
      · obtain ⟨hopen, hfree⟩ := (isDone_eq_false_iff _ _ _).1 hdone
        obtain ⟨_, _, result, accepted, _, _, hread, hstep⟩ := process_path hprocess hfree
        obtain ⟨ds, hreads, hpath, hcount, hsub, hall, hexecutes⟩ := ih hrest
        refine ⟨.executed task.id result accepted :: ds, ?_, .cons hstep hpath, ?_, ?_, ?_, ?_⟩
        · simpa using hread.append hreads
        · rw [executedIds_cons_executed, List.length_cons, hcount]
        · rw [executedIds_cons_executed, openTasks_cons, if_pos hopen]
          exact List.Sublist.cons_cons task.id hsub
        · intro d hd
          rcases List.mem_cons.1 hd with rfl | hd
          · exact ⟨task.id, result, accepted, rfl⟩
          · exact hall d hd
        · intro task' htask' hfree'
          rw [executedIds_cons_executed]
          by_cases hsame : task'.id = task.id
          · exact hsame ▸ List.mem_cons_self
          -- What is kept of another task has not changed.
          · refine List.mem_cons_of_mem _ (hexecutes task' ?_ ?_)
            · obtain ⟨hmem, hnew⟩ := List.mem_filter.1 htask'
              have hmem' : task' ∈ tasks :=
                (List.mem_cons.1 hmem).resolve_left fun heq => hsame (heq ▸ rfl)
              exact List.mem_filter.2 ⟨hmem', hnew⟩
            · cases hstep with
              | execute => cases accepted <;> simp [hsame, hfree']

/-- Between two listed tasks nothing happens, so every number of them is a stop on the way. -/
theorem processEach_append (hostId : String) (stopTimeoutSecs : Nat) (resent : List String)
    (tasks tasks' : List Task) (kept : Unreported) :
    processEach hostId stopTimeoutSecs resent (tasks ++ tasks') kept =
      (processEach hostId stopTimeoutSecs resent tasks kept).bind fun first =>
        (processEach hostId stopTimeoutSecs resent tasks' first.2).bind fun second =>
          .done (first.1 + second.1, second.2) := by
  induction tasks generalizing kept with
  | nil =>
      have hdone : (fun second : Nat × Unreported => Program.done (0 + second.1, second.2)) =
          (Program.done : Nat × Unreported → Work (Nat × Unreported)) := by
        funext second
        rw [Nat.zero_add]
      show _ = (processEach hostId stopTimeoutSecs resent tasks' kept).bind _
      rw [hdone, Program.bind_done]
      rfl
  | cons task tasks ih =>
      simp only [List.cons_append, processEach]
      split
      · exact ih kept
      · show Program.bind _ _ = Program.bind (Program.bind _ _) _
        rw [Program.bind_assoc]
        refine congrArg (Program.bind _) (funext fun kept₁ => ?_)
        show Program.bind _ _ = Program.bind (Program.bind _ _) _
        rw [ih, Program.bind_assoc, Program.bind_assoc]
        refine congrArg (Program.bind _) (funext fun first => ?_)
        show Program.bind (Program.bind _ _) _ = Program.bind _ _
        rw [Program.bind_assoc]
        refine congrArg (Program.bind _) (funext fun second => ?_)
        show Program.done (first.1 + second.1 + 1, second.2) = .done (first.1 + 1 + second.1, _)
        rw [Nat.add_right_comm]

/-- The ways in which a poll goes: the tasks cannot be had, or they are gone through. -/
theorem yields_pollOnce {hostId : String} {stopTimeoutSecs : Nat} {kept kept' : Unreported}
    {past : List (Asked Action.Reply)} {result : Except CentralError Nat}
    (h : (pollOnce hostId stopTimeoutSecs kept).Yields past (result, kept')) :
    ∃ first kept₁, (flush kept.entries kept).Yields first kept₁ ∧
      ((∃ e, past = first ++ [⟨.central (.pendingTasks hostId), .error e⟩] ∧
          result = .error e ∧ kept' = kept₁) ∨
        ∃ tasks second n, past = first ++ ⟨.central (.pendingTasks hostId), .ok tasks⟩ :: second ∧
          result = .ok n ∧
          (processEach hostId stopTimeoutSecs kept.keys tasks kept₁).Yields second (n, kept')) := by
  obtain ⟨first, _, kept₁, rfl, hflush, hlist⟩ := (Program.yields_bind _ _ _ _).1 h
  refine ⟨first, kept₁, hflush, ?_⟩
  obtain ⟨reply, rest, rfl, hrest⟩ := (Program.yields_ask _ _ _ _).1 hlist
  cases reply with
  | error e =>
      obtain ⟨rfl, heq⟩ := (Program.yields_done _ _ _).1 hrest
      cases heq
      exact .inl ⟨e, rfl, rfl, rfl⟩
  | ok tasks =>
      have hloop : ((processEach hostId stopTimeoutSecs kept.keys tasks kept₁).bind fun each =>
          .done (.ok each.1, each.2)).Yields rest (result, kept') := hrest
      obtain ⟨second, _, ⟨n, kept₂⟩, rfl, heach, hend⟩ := (Program.yields_bind _ _ _ _).1 hloop
      obtain ⟨rfl, heq⟩ := (Program.yields_done _ _ _).1 hend
      cases heq
      exact .inr ⟨tasks, second, n, by rw [List.append_nil], rfl, heach⟩

end HostAgent.Tasks
