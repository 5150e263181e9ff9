import HostAgent.Proofs.Tasks.Reading

/-!
# Accounts of polls

A run of polls begins with nothing kept, and each poll begins with what the one
before it kept. The account of a run is the list of the deeds of its polls. It
can be drawn up not only when a poll is over, but also after its flush, and
after each of the tasks that it goes through.

At each of these checkpoints the books are right: the latest result of every
executed task was accepted by the central server or is kept, and nothing else
is kept. If the central server does not list a task as open once it has
accepted its result in an earlier poll, no task is ever executed twice.

## Main results

* `Ledger.proceed`: a poll, as far as it has come, keeps the ledger right.
* `Checkpoint.ledger`: so the ledger is right at every checkpoint.
* `flushed_stop`, `processed_stop`: a checkpoint lies on the way of a poll.
* `checkpoint_accounts`: what this says of executions, reports and kept results.
-/

namespace HostAgent.Tasks

/-! ## Runs and their checkpoints -/

/-- The histories of polls one after another, and what is kept after them. -/
inductive PollRun (hostId : String) (stopTimeoutSecs : Nat) :
    List (List (Asked Action.Reply)) → Unreported → Prop
  | start : PollRun hostId stopTimeoutSecs [] ∅
  | poll {polls : List (List (Asked Action.Reply))} {kept kept' : Unreported}
      {past : List (Asked Action.Reply)} {result : Except CentralError Nat} :
      PollRun hostId stopTimeoutSecs polls kept →
      (pollOnce hostId stopTimeoutSecs kept).Yields past (result, kept') →
      PollRun hostId stopTimeoutSecs (polls ++ [past]) kept'

/-- A stop between two parts of a poll: the histories up to it, and what is kept there. -/
inductive Checkpoint (hostId : String) (stopTimeoutSecs : Nat) :
    List (List (Asked Action.Reply)) → Unreported → Prop
  | polled {polls : List (List (Asked Action.Reply))} {kept : Unreported} :
      PollRun hostId stopTimeoutSecs polls kept → Checkpoint hostId stopTimeoutSecs polls kept
  | flushed {polls : List (List (Asked Action.Reply))} {kept kept' : Unreported}
      {first : List (Asked Action.Reply)} :
      PollRun hostId stopTimeoutSecs polls kept →
      (flush kept.entries kept).Yields first kept' →
      Checkpoint hostId stopTimeoutSecs (polls ++ [first]) kept'
  /-- The tasks `before` were gone through, and the tasks `after` are still to come. -/
  | processed {polls : List (List (Asked Action.Reply))} {kept kept₁ kept' : Unreported}
      {first second : List (Asked Action.Reply)} {before : List Task} {n : Nat}
      (after : List Task) :
      PollRun hostId stopTimeoutSecs polls kept →
      (flush kept.entries kept).Yields first kept₁ →
      (processEach hostId stopTimeoutSecs kept.keys before kept₁).Yields second (n, kept') →
      Checkpoint hostId stopTimeoutSecs
        (polls ++ [first ++ ⟨.central (.pendingTasks hostId), .ok (before ++ after)⟩ :: second])
        kept'

/-- The deeds of each poll. -/
def account (polls : List (List (Asked Action.Reply))) : List (List Deed) :=
  polls.map (deeds false)

theorem account_append (polls : List (List (Asked Action.Reply)))
    (past : List (Asked Action.Reply)) :
    account (polls ++ [past]) = account polls ++ [deeds false past] := by
  simp [account]

/-- Every list of tasks names each once, and a task of which a report was accepted in an earlier
poll is listed with a result only. -/
def CatchesUp (polls : List (List Deed)) : Prop :=
  ∀ earlier current later, polls = earlier ++ current :: later →
    ∀ tasks, .listed tasks ∈ current →
      (tasks.map Task.id).Nodup ∧
      ∀ task ∈ tasks, (∃ result, Accepted task.id result earlier.flatten) → task.result.isSome

theorem CatchesUp.of_append {polls : List (List Deed)} {ds : List Deed}
    (h : CatchesUp (polls ++ [ds])) : CatchesUp polls := by
  intro earlier current later hsplit
  refine h earlier current (later ++ [ds]) ?_
  rw [hsplit, List.append_assoc, List.cons_append]

/-! ## The ledger of a run -/

/-- The deeds of a single poll as far as it has come: kept results are sent again, and then the
open ones of the listed tasks are executed. -/
inductive Proceeds (kept : Unreported) : List Deed → Unreported → Prop
  | flushing {ds : List Deed} {kept' : Unreported} :
      Path kept ds kept' → executedIds ds = [] → Proceeds kept ds kept'
  | executing {ds es : List Deed} {kept₁ kept' : Unreported} (tasks : List Task) :
      Path kept ds kept₁ → executedIds ds = [] → Path kept₁ es kept' →
      (executedIds es).Sublist ((openTasks kept.keys tasks).map Task.id) →
      Proceeds kept (ds ++ .listed tasks :: es) kept'

/-- What is right about the deeds of the polls up to some point. -/
structure Ledger (kept : Unreported) (polls : List (List Deed)) : Prop where
  books : Books kept polls.flatten
  once : CatchesUp polls → (executedIds polls.flatten).Nodup

theorem Ledger.start : Ledger ∅ [] where
  books := .empty
  once := fun _ => List.nodup_nil

theorem Proceeds.path {kept kept' : Unreported} {ds : List Deed}
    (h : Proceeds kept ds kept') : Path kept ds kept' := by
  cases h with
  | flushing hpath _ => exact hpath
  | executing tasks hflush _ heach _ => exact hflush.append (.cons (.list _ tasks) heach)

/-- A task that is open for a poll was not executed in an earlier one: a result that was not
accepted would have been sent again, and an accepted one is listed with the task. -/
theorem Ledger.not_executed {kept : Unreported} {polls : List (List Deed)}
    (h : Ledger kept polls) {tasks : List Task}
    (hlisted : ∀ task ∈ tasks,
      (∃ result, Accepted task.id result polls.flatten) → task.result.isSome)
    {task : Task} (htask : task ∈ openTasks kept.keys tasks) :
    task.id ∉ executedIds polls.flatten := by
  intro hexecuted
  obtain ⟨hmem, hopen⟩ := List.mem_filter.1 htask
  simp only [Bool.and_eq_true, Bool.not_eq_true'] at hopen
  obtain ⟨hnone, hkeys⟩ := hopen
  obtain ⟨⟨result, accepted⟩, hstanding⟩ :=
    Option.ne_none_iff_exists'.1 (standing_ne_none_of_executed hexecuted)
  cases accepted with
  | true =>
      have hsome := hlisted task hmem ⟨result, accepted_of_standing hstanding⟩
      rw [Option.isSome_iff_ne_none] at hsome
      exact hsome (Option.isNone_iff_eq_none.1 hnone)
  | false =>
      have hkept : kept.get? task.id = some result := (h.books.kept_iff _ _).2 hstanding
      have hmem : task.id ∈ kept.keys := by
        rw [KeyMap.mem_keys_iff, hkept]
        simp
      rw [List.contains_iff_mem.2 hmem] at hkeys
      cases hkeys

theorem Ledger.proceed {kept kept' : Unreported} {polls : List (List Deed)} {ds : List Deed}
    (h : Ledger kept polls) (hds : Proceeds kept ds kept') : Ledger kept' (polls ++ [ds]) := by
  refine { books := ?_, once := ?_ }
  · rw [List.flatten_append, List.flatten_singleton]
    exact h.books.path hds.path
  · intro hcatches
    have hold : (executedIds polls.flatten).Nodup := h.once hcatches.of_append
    rw [List.flatten_append, List.flatten_singleton, executedIds_append]
    cases hds with
    | flushing _ hnone => rwa [hnone, List.append_nil]
    | @executing resent es _ _ tasks _ hnone _ hsub =>
        obtain ⟨hnodup, hlisted⟩ := hcatches polls _ [] rfl tasks (by simp)
        rw [executedIds_append, hnone, List.nil_append, executedIds_cons_listed]
        have hopen : ((openTasks kept.keys tasks).map Task.id).Nodup :=
          hnodup.sublist (List.filter_sublist.map Task.id)
        refine List.nodup_append.2 ⟨hold, hopen.sublist hsub, ?_⟩
        intro id hid id' hid' heq
        subst heq
        obtain ⟨task, htask, rfl⟩ := List.mem_map.1 (hsub.subset hid')
        exact h.not_executed hlisted htask hid

/-! ## Checkpoints have a ledger -/

/-- A flush sends kept results again, and executes nothing. -/
theorem flush_proceeds {kept kept' : Unreported} {past : List (Asked Action.Reply)}
    (h : (flush kept.entries kept).Yields past kept') :
    ∃ ds, Reads past ds ∧ Path kept ds kept' ∧ executedIds ds = [] ∧
      ∀ d ∈ ds, ∃ id result accepted, d = .resent id result accepted := by
  obtain ⟨ds, hread, hpath, hall⟩ :=
    flush_path h (fun e he => (KeyMap.get?_eq_some_iff _ _ _).2 he) kept.nodup_keys
  refine ⟨ds, hread, hpath, List.filterMap_eq_nil_iff.2 ?_, hall⟩
  intro d hd
  obtain ⟨id, result, accepted, rfl⟩ := hall d hd
  rfl

/-- A listing stands between the deeds of the flush before it and of the tasks after it. -/
theorem Reads.listing {first second : List (Asked Action.Reply)} {ds es : List Deed}
    (hfirst : Reads first ds) (hsecond : Reads second es) (hostId : String) (tasks : List Task) :
    deeds false (first ++ ⟨.central (.pendingTasks hostId), .ok tasks⟩ :: second) =
      ds ++ .listed tasks :: es := by
  have hlisting := Reads.single
    (⟨.central (.pendingTasks hostId), .ok tasks⟩ : Asked Action.Reply) rfl
  exact (hfirst.append (hlisting.append hsecond)).deeds_eq

/-- A list of tasks that cannot be had is no deed. -/
theorem Reads.failing {first : List (Asked Action.Reply)} {ds : List Deed}
    (hfirst : Reads first ds) (hostId : String) (e : CentralError) :
    deeds false (first ++ [⟨.central (.pendingTasks hostId), .error e⟩]) = ds := by
  have hfailed := Reads.single
    (⟨.central (.pendingTasks hostId), .error e⟩ : Asked Action.Reply) rfl
  rw [(hfirst.append hfailed).deeds_eq]
  exact List.append_nil ds

theorem processed_proceeds {hostId : String} {stopTimeoutSecs : Nat}
    {kept kept₁ kept' : Unreported} {first second : List (Asked Action.Reply)}
    {before : List Task} {n : Nat} (after : List Task)
    (hflush : (flush kept.entries kept).Yields first kept₁)
    (heach : (processEach hostId stopTimeoutSecs kept.keys before kept₁).Yields second (n, kept')) :
    Proceeds kept
      (deeds false
        (first ++ ⟨.central (.pendingTasks hostId), .ok (before ++ after)⟩ :: second)) kept' := by
  obtain ⟨ds, hfirst, hpath, hnone, -⟩ := flush_proceeds hflush
  obtain ⟨es, hsecond, hpath', _, hsub, -⟩ := processEach_path heach
  rw [hfirst.listing hsecond]
  refine .executing (before ++ after) hpath hnone hpath' (hsub.trans ?_)
  rw [openTasks, openTasks, List.filter_append, List.map_append]
  exact List.sublist_append_left _ _

theorem pollOnce_proceeds {hostId : String} {stopTimeoutSecs : Nat} {kept kept' : Unreported}
    {past : List (Asked Action.Reply)} {result : Except CentralError Nat}
    (h : (pollOnce hostId stopTimeoutSecs kept).Yields past (result, kept')) :
    Proceeds kept (deeds false past) kept' := by
  obtain ⟨first, kept₁, hflush, ⟨e, rfl, -, rfl⟩ | ⟨tasks, second, n, rfl, -, heach⟩⟩ :=
    yields_pollOnce h
  · obtain ⟨ds, hread, hpath, hnone, -⟩ := flush_proceeds hflush
    rw [hread.failing]
    exact .flushing hpath hnone
  · simpa using processed_proceeds [] hflush heach

theorem PollRun.ledger {hostId : String} {stopTimeoutSecs : Nat}
    {polls : List (List (Asked Action.Reply))} {kept : Unreported}
    (h : PollRun hostId stopTimeoutSecs polls kept) : Ledger kept (account polls) := by
  induction h with
  | start => exact .start
  | poll _ hpoll ih =>
      rw [account_append]
      exact ih.proceed (pollOnce_proceeds hpoll)

theorem Checkpoint.ledger {hostId : String} {stopTimeoutSecs : Nat}
    {polls : List (List (Asked Action.Reply))} {kept : Unreported}
    (h : Checkpoint hostId stopTimeoutSecs polls kept) : Ledger kept (account polls) := by
  cases h with
  | polled hrun => exact hrun.ledger
  | flushed hrun hflush =>
      obtain ⟨ds, hread, hpath, hnone, -⟩ := flush_proceeds hflush
      rw [account_append, hread.deeds_eq]
      exact hrun.ledger.proceed (.flushing hpath hnone)
  | processed after hrun hflush heach =>
      rw [account_append]
      exact hrun.ledger.proceed (processed_proceeds after hflush heach)

theorem accepted_report {id : String} {result : TaskResult}
    {polls : List (List (Asked Action.Reply))} (h : Accepted id result (account polls).flatten) :
    ∃ past ∈ polls, ⟨.central (.report id result), .ok ()⟩ ∈ past := by
  have hpoll : ∃ ds ∈ account polls, Accepted id result ds := by
    rcases h with h | h
    · obtain ⟨ds, hds, hmem⟩ := List.mem_flatten.1 h
      exact ⟨ds, hds, .inl hmem⟩
    · obtain ⟨ds, hds, hmem⟩ := List.mem_flatten.1 h
      exact ⟨ds, hds, .inr hmem⟩
  obtain ⟨ds, hds, haccepted⟩ := hpoll
  obtain ⟨past, hpast, rfl⟩ := List.mem_map.1 hds
  exact ⟨past, hpast, accepted_reply haccepted⟩

/-! ## Checkpoints lie on the way of polls -/

/-- What a poll still has to do after its flush. -/
def afterFlush (hostId : String) (stopTimeoutSecs : Nat) (resent : List String)
    (kept : Unreported) : Work (Except CentralError Nat × Unreported) := do
  match ← Work.central (.pendingTasks hostId) with
  | .error e => return (.error e, kept)
  | .ok tasks =>
    let (executed, kept) ← processEach hostId stopTimeoutSecs resent tasks kept
    return (.ok executed, kept)

/-- What a poll still has to do when it has executed `n` tasks and others are to come. -/
def afterTasks (hostId : String) (stopTimeoutSecs : Nat) (resent : List String) (n : Nat)
    (after : List Task) (kept : Unreported) : Work (Except CentralError Nat × Unreported) := do
  let (executed, kept) ← processEach hostId stopTimeoutSecs resent after kept
  return (.ok (n + executed), kept)

theorem flushed_stop {kept kept' : Unreported} {first : List (Asked Action.Reply)}
    (hostId : String) (stopTimeoutSecs : Nat)
    (h : (flush kept.entries kept).Yields first kept') :
    (pollOnce hostId stopTimeoutSecs kept).Reaches first
      (afterFlush hostId stopTimeoutSecs kept.keys kept') := by
  have hstop := Program.reaches_bind h
    (f := afterFlush hostId stopTimeoutSecs kept.keys) (.here _)
  rwa [List.append_nil] at hstop

theorem processed_stop {hostId : String} {stopTimeoutSecs : Nat}
    {kept kept₁ kept' : Unreported} {first second : List (Asked Action.Reply)}
    {before : List Task} {n : Nat} (after : List Task)
    (hflush : (flush kept.entries kept).Yields first kept₁)
    (heach : (processEach hostId stopTimeoutSecs kept.keys before kept₁).Yields second (n, kept')) :
    (pollOnce hostId stopTimeoutSecs kept).Reaches
      (first ++ ⟨.central (.pendingTasks hostId), .ok (before ++ after)⟩ :: second)
      (afterTasks hostId stopTimeoutSecs kept.keys n after kept') := by
  have hloop : ((processEach hostId stopTimeoutSecs kept.keys (before ++ after) kept₁).bind
      fun each => .done (.ok each.1, each.2)).Reaches second
      (afterTasks hostId stopTimeoutSecs kept.keys n after kept') := by
    have hrest : ∀ each : Nat × Unreported,
        (((processEach hostId stopTimeoutSecs kept.keys after each.2).bind fun second =>
            .done (each.1 + second.1, second.2)).bind fun each =>
          .done (.ok each.1, each.2) : Work (Except CentralError Nat × Unreported)) =
        afterTasks hostId stopTimeoutSecs kept.keys each.1 after each.2 := by
      intro each
      rw [Program.bind_assoc]
      rfl
    rw [processEach_append, Program.bind_assoc]
    simp only [hrest]
    have hstop := Program.reaches_bind heach
      (f := fun each => afterTasks hostId stopTimeoutSecs kept.keys each.1 after each.2) (.here _)
    rwa [List.append_nil] at hstop
  exact Program.reaches_bind hflush (f := afterFlush hostId stopTimeoutSecs kept.keys)
    (.ask _ _ _ hloop)

/-! ## What the accounts say -/

/-- At every checkpoint, each task that was executed stands by its latest result, which was accepted
by the central server or is kept, and nothing else is kept. No task was executed while its last
result was not accepted, and none twice if the lists of tasks catch up with what was accepted. -/
theorem checkpoint_accounts {hostId : String} {stopTimeoutSecs : Nat}
    {polls : List (List (Asked Action.Reply))} {kept : Unreported}
    (h : Checkpoint hostId stopTimeoutSecs polls kept) :
    (∀ id ∈ executedIds (account polls).flatten, ∃ s,
      standing id (account polls).flatten = some s ∧
      lastResult id (account polls).flatten = some s.result ∧
      ((s.accepted = true ∧ kept.get? id = none ∧
          ∃ past ∈ polls, ⟨.central (.report id s.result), .ok ()⟩ ∈ past) ∨
        (s.accepted = false ∧ kept.get? id = some s.result))) ∧
    (∀ id result, kept.get? id = some result ↔
      standing id (account polls).flatten = some ⟨result, false⟩) ∧
    (∀ before id result accepted after,
      (account polls).flatten = before ++ .executed id result accepted :: after →
      ∀ waiting, standing id before ≠ some ⟨waiting, false⟩) ∧
    (CatchesUp (account polls) → (executedIds (account polls).flatten).Nodup) := by
  have hledger : Ledger kept (account polls) := h.ledger
  refine ⟨?_, hledger.books.kept_iff, hledger.books.careful, hledger.once⟩
  intro id hid
  obtain ⟨⟨result, accepted⟩, hs⟩ :=
    Option.ne_none_iff_exists'.1 (standing_ne_none_of_executed hid)
  refine ⟨⟨result, accepted⟩, hs, by rw [← standing_result, hs]; rfl, ?_⟩
  cases accepted with
  | false => exact .inr ⟨rfl, (hledger.books.kept_iff id result).2 hs⟩
  | true =>
      refine .inl ⟨rfl, ?_, accepted_report (accepted_of_standing hs)⟩
      rw [Option.eq_none_iff_forall_ne_some]
      intro waiting hkept
      have hwaiting := (hledger.books.kept_iff id waiting).1 hkept
      rw [hs] at hwaiting
      cases hwaiting

/-! A central server that does not accept the first report of its only task, accepts the second one
at the start of the next poll, and lists the task with its result from the third poll on. -/

/-- The only result. -/
def webStarted : TaskResult := .succeeded (some "web") "container started"

/-- The only task. -/
def startWeb (result : Option TaskResult) : Task :=
  { id := "t1", type := .start, hostId := none, containerId := some "web", spec := none,
    force := false, timeoutSecs := none, result }

/-- The histories of three polls. -/
def threePolls : List (List (Asked Action.Reply)) :=
  [[⟨.central (.pendingTasks "h1"), .ok [startWeb none]⟩,
    ⟨.engine (.start "web"), .ok ()⟩,
    ⟨.notice (.series (.taskExecuted true)), ()⟩,
    ⟨.notice (.event "h1" (.taskCompleted "t1" "start" true (some "web") "container started")),
      ()⟩,
    ⟨.central (.report "t1" webStarted), .error .transport⟩,
    ⟨.engine (.inspect "web"), .error (.unavailable "away")⟩],
   [⟨.central (.report "t1" webStarted), .ok ()⟩,
    ⟨.central (.pendingTasks "h1"), .ok [startWeb none]⟩],
   [⟨.central (.pendingTasks "h1"), .ok [startWeb (some webStarted)]⟩]]

theorem threePolls_run : PollRun "h1" 10 threePolls ∅ := by
  have first : PollRun "h1" 10 (threePolls.take 1) (KeyMap.insert ∅ "t1" webStarted) :=
    .poll .start (.ask _ _ _ (.ask _ _ _ (.ask _ _ _ (.ask _ _ _ (.ask _ _ _ (.ask _ _ _
      (.here _)))))))
  have second : PollRun "h1" 10 (threePolls.take 2) ∅ :=
    .poll first (.ask _ _ _ (.ask _ _ _ (.here _)))
  exact .poll second (.ask _ _ _ (.here _))

theorem account_threePolls : account threePolls =
    [[.listed [startWeb none], .executed "t1" webStarted false],
      [.resent "t1" webStarted true, .listed [startWeb none]],
      [.listed [startWeb (some webStarted)]]] := rfl

theorem threePolls_catchUp : CatchesUp (account threePolls) := by
  rw [account_threePolls]
  intro earlier current later hsplit tasks htasks
  rcases earlier with _ | ⟨_, _ | ⟨_, _ | ⟨_, earlier⟩⟩⟩
  · cases hsplit
    obtain rfl : tasks = [startWeb none] := by simpa using htasks
    simp [Accepted]
  · cases hsplit
    obtain rfl : tasks = [startWeb none] := by simpa using htasks
    simp [Accepted]
  · cases hsplit
    obtain rfl : tasks = [startWeb (some webStarted)] := by simpa using htasks
    simp [startWeb]
  · simp at hsplit

/-- The result that was not accepted at first is not lost, and the task is executed once. -/
theorem checkpoint_accounts_threePolls :
    executedIds (account threePolls).flatten = ["t1"] ∧
    (∃ s, standing "t1" (account threePolls).flatten = some s ∧
      lastResult "t1" (account threePolls).flatten = some s.result ∧
      ((s.accepted = true ∧ (∅ : Unreported).get? "t1" = none ∧
          ∃ past ∈ threePolls, ⟨.central (.report "t1" s.result), .ok ()⟩ ∈ past) ∨
        (s.accepted = false ∧ (∅ : Unreported).get? "t1" = some s.result))) ∧
    (executedIds (account threePolls).flatten).Nodup := by
  have haccounts := checkpoint_accounts (.polled threePolls_run)
  exact ⟨rfl, haccounts.1 "t1" List.mem_cons_self, haccounts.2.2.2 threePolls_catchUp⟩

end HostAgent.Tasks
