import Mathlib.Data.List.Forall2
import HostAgent.Proofs.Tasks.Accounts

/-!
# What a poll does, question by question

A poll reports every kept result once, asks for its tasks, and executes each
open one in the order of the list. What an execution asks ends with a report of
its result and with a look at its container, and however these turn out, the
next task has its turn. An execution is told of twice: the series count it, and
the log has an event of it.

Tasks that are executed put their results into the map that decides which tasks
are left alone. If no id is listed twice, this concerns tasks only that had their
turn already, so that the open tasks can be told from the listing and from what
was kept at the start.

## Main results

* `flush_reports`: what a flush asks, and what is kept after it.
* `process_executed`: what processing a task asks.
* `processEach_executes`: the open ones of the listed tasks are executed.
* `pollOnce_loses_none`: the whole of a poll.
-/

namespace HostAgent

namespace Tasks

/-! ## What is told of tasks -/

/-- Does an action tell that a task was executed, in the series or in the log? -/
def tellsOfTask : Action → Bool
  | .notice (.series (.taskExecuted _)) => true
  | a => isCompletion a

/-- The tasks that were completed, as the log tells of them. -/
def completions (past : List (Asked Action.Reply)) : List Action :=
  (past.map Asked.question).filter isCompletion

/-- The event of a completed task. -/
def completion (hostId : String) (task : Task) (result : TaskResult) : Action :=
  .notice (.event hostId (.taskCompleted task.id task.type.name result.success result.containerId
    result.message))

/-- A history grows the counters of tasks by so many executions and failures, and the log by these
events. -/
structure Tells (past : List (Asked Action.Reply)) (executed failed : Nat)
    (events : List Action) : Prop where
  executed_eq : ∀ s : Series, (s.after past).tasksExecuted = s.tasksExecuted + executed
  failed_eq : ∀ s : Series, (s.after past).taskFailures = s.taskFailures + failed
  events_eq : completions past = events

theorem Tells.nil : Tells [] 0 0 [] := ⟨fun _ => rfl, fun _ => rfl, rfl⟩

theorem Tells.append {past past' : List (Asked Action.Reply)} {n n' m m' : Nat}
    {events events' : List Action} (h : Tells past n m events) (h' : Tells past' n' m' events') :
    Tells (past ++ past') (n + n') (m + m') (events ++ events') := by
  refine ⟨fun s => ?_, fun s => ?_, ?_⟩
  · rw [Series.after_append, h'.executed_eq, h.executed_eq, Nat.add_assoc]
  · rw [Series.after_append, h'.failed_eq, h.failed_eq, Nat.add_assoc]
  · rw [← h.events_eq, ← h'.events_eq]
    simp [completions]

/-- Questions that tell nothing of tasks. -/
theorem Tells.of_quiet {past : List (Asked Action.Reply)}
    (h : ∀ e ∈ past, tellsOfTask e.question = false) : Tells past 0 0 [] := by
  induction past with
  | nil => exact .nil
  | cons e past ih =>
      have he : tellsOfTask e.question = false := h e List.mem_cons_self
      have hhead : Tells [e] 0 0 [] := by
        obtain ⟨q, r⟩ := e
        cases q with
        | notice n =>
            cases n with
            | series change =>
                cases change <;> first | exact ⟨fun _ => rfl, fun _ => rfl, rfl⟩ | cases he
            | event host event =>
                cases event <;> first | exact ⟨fun _ => rfl, fun _ => rfl, rfl⟩ | cases he
            | _ => exact ⟨fun _ => rfl, fun _ => rfl, rfl⟩
        | _ => exact ⟨fun _ => rfl, fun _ => rfl, rfl⟩
      exact hhead.append (ih fun e' he' => h e' (List.mem_cons_of_mem _ he'))

/-- A program that never tells of a task. -/
abbrev Quiet {α : Type} (p : Work α) : Prop := p.Asking fun a => tellsOfTask a = false

theorem Quiet.tells {α : Type} {p : Work α} (hp : Quiet p) {past : List (Asked Action.Reply)}
    {a : α} (h : p.Yields past a) : Tells past 0 0 [] :=
  .of_quiet (hp.of_reaches h).1

theorem quiet_execute (task : Task) (stopTimeoutSecs : Nat) :
    Quiet (execute task stopTimeoutSecs) := by
  refine (execute_asking task stopTimeoutSecs).mono fun a ha => ?_
  cases a with
  | notice n => cases n <;> first | rfl | exact ha.elim
  | _ => rfl

theorem quiet_syncOne (hostId id : String) : Quiet (Reconcile.syncOne hostId id) := by
  refine .ask rfl ?_
  rintro (e | detail)
  · exact .done _
  · refine .ask rfl ?_
    rintro (e | outcome)
    · exact .ask rfl fun _ => .done _
    · cases outcome <;> exact .ask rfl fun _ => .done _

theorem quiet_converge (hostId : String) (task : Task) (result : TaskResult) :
    Quiet (converge hostId task result) := by
  unfold converge
  split
  · exact .done _
  · split
    · exact .ask rfl fun _ => .ask rfl fun _ => .done _
    · exact (quiet_syncOne hostId _).bind fun _ => .done _

/-! ## The language of a poll -/

/-- Kept results are reported one after another, whatever is replied. -/
def reports (entries : List (String × TaskResult)) (replies : List (Except CentralError Unit)) :
    List (Asked Action.Reply) :=
  List.zipWith (fun e reply => ⟨.central (.report e.1 e.2), reply⟩) entries replies

/-- A task that was executed: all that was asked for it, what it resulted in, and what was replied
to the report of that. -/
structure Execution where
  past : List (Asked Action.Reply)
  result : TaskResult
  reply : Except CentralError Unit

/-- What is told of an execution, and the report of it. -/
def settlement (hostId : String) (task : Task) (result : TaskResult)
    (reply : Except CentralError Unit) : List (Asked Action.Reply) :=
  [⟨.notice (.series (.taskExecuted result.success)), ()⟩,
    ⟨completion hostId task result, ()⟩,
    ⟨.central (.report task.id result), reply⟩]

/-- A task is executed, its result is told of and reported, and its container is looked at. -/
inductive Executed (hostId : String) (stopTimeoutSecs : Nat) (task : Task) : Execution → Prop
  | mk {first last : List (Asked Action.Reply)} {result : TaskResult}
      (reply : Except CentralError Unit) :
      (execute task stopTimeoutSecs).Yields first result →
      (converge hostId task result).Yields last () →
      Executed hostId stopTimeoutSecs task
        ⟨first ++ settlement hostId task result reply ++ last, result, reply⟩

/-- What is kept of a task with this result once a report of it got this reply. -/
def remaining (result : TaskResult) (reply : Except CentralError Unit) : Option TaskResult :=
  if reply.isOk then none else some result

theorem Executed.tells {hostId : String} {stopTimeoutSecs : Nat} {task : Task} {e : Execution}
    (h : Executed hostId stopTimeoutSecs task e) :
    Tells e.past 1 (if e.result.success then 0 else 1) [completion hostId task e.result] := by
  cases h with
  | mk reply hexecute hconverge =>
      have hfirst := (quiet_execute _ _).tells hexecute
      have hlast := (quiet_converge _ _ _).tells hconverge
      have hsettled : ∀ result, Tells (settlement hostId task result reply) 1
          (if result.success then 0 else 1) [completion hostId task result] :=
        fun _ => ⟨fun _ => rfl, fun _ => rfl, rfl⟩
      simpa using (hfirst.append (hsettled _)).append hlast

/-- Executions one after another tell of each in order. -/
theorem tells_executions {hostId : String} {stopTimeoutSecs : Nat} {tasks : List Task}
    {es : List Execution} (h : List.Forall₂ (Executed hostId stopTimeoutSecs) tasks es) :
    Tells (es.flatMap Execution.past) es.length (es.countP fun e => !e.result.success)
      (List.zipWith (completion hostId) tasks (es.map Execution.result)) := by
  induction h with
  | nil => exact .nil
  | @cons task e tasks es hhead _ ih =>
      have hcount : (es.countP fun e => !e.result.success) +
          (if (!e.result.success) = true then 1 else 0) =
          (if e.result.success then 0 else 1) + es.countP fun e => !e.result.success := by
        cases e.result.success <;> simp [Nat.add_comm]
      rw [List.flatMap_cons, List.length_cons, List.countP_cons, hcount, Nat.add_comm es.length]
      exact hhead.tells.append ih

/-! ## The parts of a poll -/

/-- The first entry is reported, and what is kept of it depends on the reply. The others are as
before. -/
theorem yields_flush_cons {entries : List (String × TaskResult)} {kept kept' : Unreported}
    {id : String} {result : TaskResult} {past : List (Asked Action.Reply)}
    (h : (flush ((id, result) :: entries) kept).Yields past kept')
    (hhead : kept.get? id = some result) :
    ∃ reply rest kept₁, past = ⟨.central (.report id result), reply⟩ :: rest ∧
      (flush entries kept₁).Yields rest kept' ∧ kept₁.get? id = remaining result reply ∧
        ∀ other, other ≠ id → kept₁.get? other = kept.get? other := by
  obtain ⟨reply, rest, rfl, hnext⟩ := (Program.yields_ask _ _ _ _).1 h
  cases reply with
  | ok _ =>
      refine ⟨.ok (), rest, kept.erase id, rfl, hnext,
        by simp [remaining, Except.isOk, Except.toBool], ?_⟩
      intro other hne
      rw [KeyMap.get?_erase, if_neg hne]
  | error e => exact ⟨.error e, rest, kept, rfl, hnext, hhead, fun _ _ => rfl⟩

/-- Every entry is reported once, and what is kept of it after that depends on the reply alone. -/
theorem flush_reports {entries : List (String × TaskResult)} {kept kept' : Unreported}
    {past : List (Asked Action.Reply)} (h : (flush entries kept).Yields past kept')
    (hkept : ∀ e ∈ entries, kept.get? e.1 = some e.2) (hnodup : (entries.map (·.1)).Nodup) :
    ∃ replies, replies.length = entries.length ∧ past = reports entries replies ∧
      (∀ id ∉ entries.map (·.1), kept'.get? id = kept.get? id) ∧
      ∀ p ∈ entries.zip replies, kept'.get? p.1.1 = remaining p.1.2 p.2 := by
  induction entries generalizing kept past with
  | nil =>
      obtain ⟨rfl, rfl⟩ := (Program.yields_done _ _ _).1 h
      exact ⟨[], rfl, rfl, fun _ _ => rfl, by simp⟩
  | cons e entries ih =>
      obtain ⟨id, result⟩ := e
      obtain ⟨hnew, hrest⟩ := List.nodup_cons.1 hnodup
      obtain ⟨reply, rest, kept₁, rfl, hflush, hid, hothers⟩ :=
        yields_flush_cons h (hkept _ List.mem_cons_self)
      have hkept₁ : ∀ e ∈ entries, kept₁.get? e.1 = some e.2 := by
        intro e he
        have hne : e.1 ≠ id := fun heq => hnew (List.mem_map.2 ⟨e, he, heq⟩)
        rw [hothers _ hne, hkept e (List.mem_cons_of_mem _ he)]
      obtain ⟨replies, hlength, rfl, hfree, hreported⟩ := ih hflush hkept₁ hrest
      refine ⟨reply :: replies, congrArg Nat.succ hlength, rfl, ?_, ?_⟩
      · intro other hother
        rw [List.map_cons, List.mem_cons, not_or] at hother
        rw [hfree other hother.2, hothers other hother.1]
      · intro p hp
        rcases List.mem_cons.1 hp with rfl | hp
        · rw [hfree id hnew, hid]
        · exact hreported p hp

theorem process_executed {hostId : String} {stopTimeoutSecs : Nat} {task : Task}
    {kept kept' : Unreported} {past : List (Asked Action.Reply)}
    (h : (process hostId stopTimeoutSecs task kept).Yields past kept') :
    ∃ e, Executed hostId stopTimeoutSecs task e ∧ past = e.past ∧
      kept' = if e.reply.isOk then kept else kept.insert task.id e.result := by
  obtain ⟨first, told, result, rfl, hexecute, hcount⟩ := (Program.yields_bind _ _ _ _).1 h
  obtain ⟨⟨⟩, logged, rfl, hlog⟩ := (Program.yields_ask _ _ _ _).1 hcount
  obtain ⟨⟨⟩, reported, rfl, hreport⟩ := (Program.yields_ask _ _ _ _).1 hlog
  obtain ⟨reply, synced, rfl, hreply⟩ := (Program.yields_ask _ _ _ _).1 hreport
  have hsync : ((converge hostId task result).bind fun _ =>
      .done (if reply.isOk then kept else kept.insert task.id result)).Yields synced kept' := hreply
  obtain ⟨last, rest, ⟨⟩, rfl, hconverge, hend⟩ := (Program.yields_bind _ _ _ _).1 hsync
  obtain ⟨rfl, rfl⟩ := (Program.yields_done _ _ _).1 hend
  refine ⟨_, .mk reply hexecute hconverge, ?_, rfl⟩
  simp [settlement, completion]

/-- Deeds that execute other tasks only leave what is kept of a task as it is. -/
theorem Path.untouched {kept kept' : Unreported} {ds : List Deed} {id : String}
    (h : Path kept ds kept')
    (hall : ∀ d ∈ ds, ∃ id result accepted, d = .executed id result accepted)
    (hid : id ∉ executedIds ds) : kept'.get? id = kept.get? id := by
  induction h with
  | nil => rfl
  | @cons _ _ _ d ds hstep _ ih =>
      obtain ⟨id', result, accepted, rfl⟩ := hall d List.mem_cons_self
      rw [executedIds_cons_executed, List.mem_cons, not_or] at hid
      rw [ih (fun d hd => hall d (List.mem_cons_of_mem _ hd)) hid.2]
      cases hstep with
      | execute => cases accepted <;> simp [hid.1]

theorem processEach_untouched {hostId : String} {stopTimeoutSecs : Nat} {resent : List String}
    {tasks : List Task} {kept kept' : Unreported} {past : List (Asked Action.Reply)} {n : Nat}
    (h : (processEach hostId stopTimeoutSecs resent tasks kept).Yields past (n, kept'))
    {id : String} (hid : id ∉ (openTasks resent tasks).map Task.id) :
    kept'.get? id = kept.get? id := by
  obtain ⟨ds, -, hpath, -, hsub, hall, -⟩ := processEach_path h
  exact hpath.untouched hall fun hmem => hid (hsub.subset hmem)

/-- Exactly the open tasks are executed, in order, and what is kept of each after that depends on
the reply to its own report alone. -/
theorem processEach_executes {hostId : String} {stopTimeoutSecs : Nat} {resent : List String}
    {tasks : List Task} {kept kept' : Unreported} {past : List (Asked Action.Reply)} {n : Nat}
    (h : (processEach hostId stopTimeoutSecs resent tasks kept).Yields past (n, kept'))
    (hnodup : (tasks.map Task.id).Nodup)
    (hfree : ∀ task ∈ openTasks resent tasks, kept.get? task.id = none) :
    ∃ es : List Execution,
      List.Forall₂ (Executed hostId stopTimeoutSecs) (openTasks resent tasks) es ∧
      past = es.flatMap Execution.past ∧ n = es.length ∧
      ∀ p ∈ (openTasks resent tasks).zip es,
        kept'.get? p.1.id = remaining p.2.result p.2.reply := by
  induction tasks generalizing kept past n with
  | nil =>
      obtain ⟨rfl, heq⟩ := (Program.yields_done _ _ _).1 h
      cases heq
      exact ⟨[], .nil, rfl, rfl, by simp [openTasks]⟩
  | cons task tasks ih =>
      obtain ⟨hnew, hothers⟩ := List.nodup_cons.1 hnodup
      have hsub : ((openTasks resent tasks).map Task.id) ⊆ tasks.map Task.id :=
        (List.filter_sublist.map Task.id).subset
      rw [openTasks_cons] at hfree ⊢
      rcases yields_processEach_cons h with ⟨hdone, hrest⟩ |
        ⟨hdone, first, second, kept₁, m, rfl, rfl, hprocess, hrest⟩
      · -- Nothing is kept of an open task, so one that is left alone is not open.
        have hclosed : ¬ (task.result.isNone && !resent.contains task.id) = true := by
          intro hopen
          rw [if_pos hopen] at hfree
          have hhead := hfree task List.mem_cons_self
          rw [(isDone_eq_false_iff _ _ _).2 ⟨hopen, hhead⟩] at hdone
          cases hdone
        rw [if_neg hclosed] at hfree ⊢
        exact ih hrest hothers hfree
      · have hopen := ((isDone_eq_false_iff _ _ _).1 hdone).1
        rw [if_pos hopen] at hfree ⊢
        obtain ⟨e, hexecuted, rfl, hkept₁⟩ := process_executed hprocess
        have hfree₁ : ∀ task' ∈ openTasks resent tasks, kept₁.get? task'.id = none := by
          intro task' hmem
          have hne : task'.id ≠ task.id := fun heq =>
            hnew (heq ▸ hsub (List.mem_map.2 ⟨task', hmem, rfl⟩))
          rw [hkept₁]
          cases e.reply.isOk <;> simp [hne, hfree task' (List.mem_cons_of_mem _ hmem)]
        obtain ⟨es, hall, rfl, rfl, hkept⟩ := ih hrest hothers hfree₁
        refine ⟨e :: es, .cons hexecuted hall, List.flatMap_cons.symm, rfl, ?_⟩
        intro p hp
        rcases List.mem_cons.1 hp with rfl | hp
        · rw [processEach_untouched hrest fun hmem => hnew (hsub hmem), hkept₁, remaining]
          have hhead := hfree task List.mem_cons_self
          cases e.reply.isOk <;> simp [hhead]
        · exact hkept p hp

/-! ## A poll -/

theorem tells_reports (entries : List (String × TaskResult))
    (replies : List (Except CentralError Unit)) : Tells (reports entries replies) 0 0 [] := by
  refine .of_quiet fun e he => ?_
  rw [reports, ← List.map_uncurry_zip_eq_zipWith] at he
  obtain ⟨_, -, rfl⟩ := List.mem_map.1 he
  rfl

/-- Whatever is replied, a poll begins with one report of each kept result, and the result is kept
on just if that report fails. Then the tasks are asked for. If they cannot be had, the poll ends
with that error. Otherwise, if no id is listed twice, it executes exactly the listed tasks that
carry no result and of which nothing was kept when it began, in order, each to its end. It ends with
their number, by which the counter of executed tasks has grown, as the counter of failed tasks has
by the failures among them; and the log has one event of each in the same order. -/
theorem pollOnce_loses_none {σ : Type} (hostId : String) (stopTimeoutSecs : Nat)
    (kept : Unreported) (answer : σ → (a : Action) → a.Reply × σ) (s : σ) :
    let poll := pollOnce hostId stopTimeoutSecs kept
    let past := poll.history answer s
    let result := (poll.run answer s).1.1
    let kept' := (poll.run answer s).1.2
    ∃ replies listing rest,
      past = reports kept.entries replies ++
        ⟨.central (.pendingTasks hostId), listing⟩ :: rest ∧
      replies.length = kept.entries.length ∧
      (∀ p ∈ kept.entries.zip replies, kept'.get? p.1.1 = remaining p.1.2 p.2) ∧
      match listing with
      | .error e => rest = [] ∧ result = .error e
      | .ok tasks => (tasks.map Task.id).Nodup →
        ∃ es : List Execution,
          List.Forall₂ (Executed hostId stopTimeoutSecs) (openTasks kept.keys tasks) es ∧
          rest = es.flatMap Execution.past ∧
          result = .ok es.length ∧
          (∀ p ∈ (openTasks kept.keys tasks).zip es,
            kept'.get? p.1.id = remaining p.2.result p.2.reply) ∧
          Tells past es.length (es.countP fun e => !e.result.success)
            (List.zipWith (completion hostId) (openTasks kept.keys tasks)
              (es.map Execution.result)) := by
  intro poll past result kept'
  have h : poll.Yields past (result, kept') := Program.yields_run answer poll s
  obtain ⟨first, kept₁, hflush, hlisted⟩ := yields_pollOnce h
  obtain ⟨replies, hlength, rfl, hfree, hreported⟩ :=
    flush_reports hflush (fun e he => (KeyMap.get?_eq_some_iff _ _ _).2 he) kept.nodup_keys
  rcases hlisted with ⟨e, hpast, hresult, hkept⟩ | ⟨tasks, second, n, hpast, hresult, heach⟩
  · exact ⟨replies, .error e, [], hpast, hlength, hkept ▸ hreported, rfl, hresult⟩
  · -- No open task has an id of which something was kept.
    have hclosed : ∀ task ∈ openTasks kept.keys tasks, task.id ∉ kept.keys := by
      intro task htask hmem
      have hopen := (List.mem_filter.1 htask).2
      rw [List.contains_iff_mem.2 hmem, Bool.not_true, Bool.and_false] at hopen
      cases hopen
    refine ⟨replies, .ok tasks, second, hpast, hlength, ?_, ?_⟩
    · intro p hp
      rw [processEach_untouched heach, hreported p hp]
      intro hmem
      obtain ⟨task, htask, heq⟩ := List.mem_map.1 hmem
      exact hclosed task htask (heq ▸ List.mem_map.2 ⟨p.1, (List.of_mem_zip hp).1, rfl⟩)
    · intro hnodup
      obtain ⟨es, hall, rfl, rfl, hkept⟩ := processEach_executes heach hnodup fun task htask => by
        have hnone := hclosed task htask
        rw [hfree task.id hnone]
        rw [KeyMap.mem_keys_iff] at hnone
        exact Option.eq_none_iff_forall_ne_some.2 fun v hv => hnone ⟨v, hv⟩
      refine ⟨es, hall, rfl, hresult, hkept, ?_⟩
      have hlisting : Tells [⟨.central (.pendingTasks hostId), .ok tasks⟩] 0 0 [] :=
        .of_quiet fun e he => List.mem_singleton.1 he ▸ rfl
      rw [hpast]
      simpa using (tells_reports kept.entries replies).append
        (hlisting.append (tells_executions hall))

/-! An engine and a central server that turn down all but the listing of tasks. -/

/-- Every call fails, but that for the tasks. -/
def turnDown (tasks : List Task) : Unit → (a : Action) → a.Reply × Unit
  | (), .engine _ => (.error (.unavailable "away"), ())
  | (), .central (.pendingTasks _) => (.ok tasks, ())
  | (), .central .checkAuth | (), .central (.registerHost _) | (), .central (.sync _)
  | (), .central (.delete _) | (), .central (.isIgnored _) | (), .central (.removeIgnored _)
  | (), .central .listIgnored | (), .central (.pushMetrics ..) | (), .central (.report ..) =>
    (.error .transport, ())
  | (), .nextEvent => (none, ())
  | (), .now => (.zero, ())
  | (), .measure => (⟨.ofFloat 0, 0, .ofFloat 0, .epoch⟩, ())
  | (), .subscribe | (), .sleep _ | (), .sleepUntil _ | (), .notice _ => ((), ())

/-- An open task, one whose result is kept, and one that carries a result. -/
def threeTasks : List Task :=
  [{ startWeb none with id := "t2" }, startWeb none, { startWeb (some webStarted) with id := "t3" }]

/-- The kept result is reported in vain and kept on, and of the three listed tasks the open one is
executed. -/
theorem pollOnce_loses_none_threeTasks :
    let kept : Unreported := KeyMap.insert ∅ "t1" webStarted
    let poll := pollOnce "h1" 10 kept
    (threeTasks.map Task.id).Nodup ∧
    (poll.run (turnDown threeTasks) ()).1.1 = .ok 1 ∧
    (poll.run (turnDown threeTasks) ()).1.2.get? "t1" = some webStarted ∧
    ∃ e, Executed "h1" 10 { startWeb none with id := "t2" } e ∧
      poll.history (turnDown threeTasks) () =
        ⟨.central (.report "t1" webStarted), .error .transport⟩ ::
          ⟨.central (.pendingTasks "h1"), .ok threeTasks⟩ :: e.past := by
  intro kept poll
  have hnodup : (threeTasks.map Task.id).Nodup := by decide
  obtain ⟨replies, listing, rest, hpast, hlength, hkept, hlisted⟩ :=
    pollOnce_loses_none "h1" 10 kept (turnDown threeTasks) ()
  obtain ⟨reply, rfl⟩ := List.length_eq_one_iff.1 hlength
  cases hpast
  obtain ⟨es, hall, hrest, hresult, -⟩ := hlisted hnodup
  obtain ⟨e, rfl⟩ := List.length_eq_one_iff.1 hall.length_eq.symm
  have hopen : openTasks kept.keys threeTasks = [{ startWeb none with id := "t2" }] := by decide
  rw [hopen] at hall
  cases hall with
  | cons hexecuted _ =>
      refine ⟨hnodup, hresult, hkept _ List.mem_cons_self, e, hexecuted, ?_⟩
      rw [List.flatMap_singleton] at hrest
      exact hrest ▸ rfl

end Tasks

end HostAgent
