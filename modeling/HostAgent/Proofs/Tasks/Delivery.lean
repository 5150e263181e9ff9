import HostAgent.Proofs.Tasks.Accounts

/-!
# Listings that have not caught up

A central server that has just accepted a kept result may still list its task as
open. A poll leaves such tasks alone: it executes nothing of what it had kept
when it began. But what it had kept is forgotten when the poll is over, also if
the tasks could not be had. So the first listing that is had in a later poll is
not guarded, and what it lists as open is executed once more.

## Main results

* `Path.free_of_resent`, `Path.kept_of_resent`: what is kept before and after a delivery.
* `pollOnce_listed`: what a poll does that gets a listing.
* `PollRun.free`: polls without a listing keep nothing of a task that was delivered.
* `executed_after_delivery_iff`: when the first listing after a delivery executes the task again.
* `executed_twice`: polls in which it does.
-/

namespace HostAgent.Tasks

/-! ## Paths without executions of a task -/

section Paths

variable {kept kept' : Unreported} {ds : List Deed} {id : String}

theorem Step.free {d : Deed} (h : Step kept d kept') (hid : id ∉ executedIds [d])
    (hfree : kept.get? id = none) : kept'.get? id = none := by
  cases h with
  | execute id' result accepted _ =>
      have hne : id ≠ id' := by simpa using hid
      cases accepted <;> simp [hne, hfree]
  | resend id' result accepted _ => cases accepted <;> simp [hfree]
  | list tasks => exact hfree

/-- Nothing comes to be kept of a task that is not executed. -/
theorem Path.free (h : Path kept ds kept') (hid : id ∉ executedIds ds)
    (hfree : kept.get? id = none) : kept'.get? id = none := by
  induction h with
  | nil => exact hfree
  | @cons _ _ _ d ds hstep _ ih =>
      rw [← List.singleton_append, executedIds_append, List.mem_append, not_or] at hid
      exact ih hid.2 (hstep.free hid.1 hfree)

/-- Nothing is kept of a task after its result was accepted. -/
theorem Path.free_of_resent (h : Path kept ds kept') (hid : id ∉ executedIds ds)
    {result : TaskResult} (hmem : .resent id result true ∈ ds) : kept'.get? id = none := by
  induction h with
  | nil => cases hmem
  | @cons _ _ _ d ds hstep hpath ih =>
      rw [← List.singleton_append, executedIds_append, List.mem_append, not_or] at hid
      rcases List.mem_cons.1 hmem with rfl | hmem
      · cases hstep with
        | resend => exact hpath.free hid.2 (by simp)
      · exact ih hid.2 hmem

/-- What is sent again was kept. -/
theorem Path.kept_of_resent (h : Path kept ds kept') (hid : id ∉ executedIds ds)
    {result : TaskResult} {accepted : Bool} (hmem : .resent id result accepted ∈ ds) :
    id ∈ kept.keys := by
  rw [KeyMap.mem_keys_iff, ← Option.ne_none_iff_exists']
  induction h with
  | nil => cases hmem
  | @cons _ _ _ d ds hstep _ ih =>
      rw [← List.singleton_append, executedIds_append, List.mem_append, not_or] at hid
      rcases List.mem_cons.1 hmem with rfl | hmem
      · cases hstep with
        | resend _ _ _ hkept => simp [hkept]
      · exact fun hfree => ih hid.2 hmem (hstep.free hid.1 hfree)

end Paths

/-! ## Polls with and without a listing -/

section Polls

variable {hostId : String} {stopTimeoutSecs : Nat} {kept kept' : Unreported}
  {past : List (Asked Action.Reply)} {result : Except CentralError Nat}

/-- A poll that gets no listing executes nothing. -/
theorem pollOnce_unlisted (h : (pollOnce hostId stopTimeoutSecs kept).Yields past (result, kept'))
    (hnone : ∀ tasks, .listed tasks ∉ deeds false past) :
    Path kept (deeds false past) kept' ∧ executedIds (deeds false past) = [] := by
  generalize hds : deeds false past = ds at hnone
  have hproceeds := pollOnce_proceeds h
  rw [hds] at hproceeds
  cases hproceeds with
  | flushing hpath hexecuted => exact ⟨hpath, hexecuted⟩
  | executing tasks _ _ _ _ => exact absurd (by simp) (hnone tasks)

/-- A poll that gets a listing has sent what it kept again before, and then executes tasks of the
listing only: none that it had kept when it began, and every open one that it keeps nothing of. -/
theorem pollOnce_listed (h : (pollOnce hostId stopTimeoutSecs kept).Yields past (result, kept'))
    {tasks : List Task} (hlisted : .listed tasks ∈ deeds false past) :
    ∃ ds es kept₁, deeds false past = ds ++ .listed tasks :: es ∧
      Path kept ds kept₁ ∧ executedIds ds = [] ∧
      (∀ d ∈ es, ∃ id result accepted, d = .executed id result accepted) ∧
      (∀ id ∈ executedIds es, ∃ task ∈ openTasks kept.keys tasks, task.id = id) ∧
      ∀ task ∈ openTasks kept.keys tasks, kept₁.get? task.id = none → task.id ∈ executedIds es := by
  obtain ⟨first, kept₁, hflush, hrest⟩ := yields_pollOnce h
  obtain ⟨ds, hfirst, hpath, hnone, hall⟩ := flush_proceeds hflush
  have hunlisted : .listed tasks ∉ ds := by
    intro hmem
    obtain ⟨_, _, _, heq⟩ := hall _ hmem
    cases heq
  rcases hrest with ⟨e, rfl, -, -⟩ | ⟨tasks', second, n, rfl, -, heach⟩
  · rw [hfirst.failing] at hlisted
    exact absurd hlisted hunlisted
  · obtain ⟨es, hsecond, -, -, hsub, honly, hopen⟩ := processEach_path heach
    have hdeeds := hfirst.listing hsecond hostId tasks'
    have hsame : tasks = tasks' := by
      rw [hdeeds] at hlisted
      rcases List.mem_append.1 hlisted with hmem | hmem
      · exact absurd hmem hunlisted
      · rcases List.mem_cons.1 hmem with heq | hmem
        · cases heq
          rfl
        · obtain ⟨_, _, _, heq⟩ := honly _ hmem
          cases heq
    subst hsame
    refine ⟨ds, es, kept₁, hdeeds, hpath, hnone, honly, ?_, hopen⟩
    intro id hid
    exact List.mem_map.1 (hsub.subset hid)

end Polls

/-! ## Runs -/

section Runs

variable {hostId : String} {stopTimeoutSecs : Nat} {kept : Unreported}
  {polls : List (List (Asked Action.Reply))}

theorem PollRun.last {past : List (Asked Action.Reply)}
    (h : PollRun hostId stopTimeoutSecs (polls ++ [past]) kept) :
    ∃ kept₀ result, PollRun hostId stopTimeoutSecs polls kept₀ ∧
      (pollOnce hostId stopTimeoutSecs kept₀).Yields past (result, kept) := by
  generalize hall : polls ++ [past] = all at h
  cases h with
  | start => simp at hall
  | poll hrun hpoll =>
      obtain ⟨rfl, hlast⟩ := List.append_inj' hall rfl
      obtain rfl := List.singleton_inj.1 hlast
      exact ⟨_, _, hrun, hpoll⟩

theorem PollRun.of_append {more : List (List (Asked Action.Reply))}
    (h : PollRun hostId stopTimeoutSecs (polls ++ more) kept) :
    ∃ kept₀, PollRun hostId stopTimeoutSecs polls kept₀ := by
  induction more using List.reverseRecOn generalizing kept with
  | nil => exact ⟨kept, by rwa [List.append_nil] at h⟩
  | append_singleton more past ih =>
      rw [← List.append_assoc] at h
      obtain ⟨kept₀, _, hrun, -⟩ := h.last
      exact ih hrun

/-- A poll in which a kept result is accepted, and others after it, all without a listing: then
nothing is kept of the task. -/
theorem PollRun.free {first : List (Asked Action.Reply)}
    {more : List (List (Asked Action.Reply))} {id : String} {result : TaskResult}
    (h : PollRun hostId stopTimeoutSecs (polls ++ first :: more) kept)
    (hdelivered : .resent id result true ∈ deeds false first)
    (hnone : ∀ past ∈ first :: more, ∀ tasks, .listed tasks ∉ deeds false past) :
    kept.get? id = none := by
  induction more using List.reverseRecOn generalizing kept with
  | nil =>
      obtain ⟨kept₀, _, -, hpoll⟩ := h.last
      obtain ⟨hpath, hexecuted⟩ := pollOnce_unlisted hpoll (hnone first List.mem_cons_self)
      exact hpath.free_of_resent (by simp [hexecuted]) hdelivered
  | append_singleton more past ih =>
      rw [← List.cons_append, ← List.append_assoc] at h
      obtain ⟨kept₀, _, hrun, hpoll⟩ := h.last
      obtain ⟨hpath, hexecuted⟩ := pollOnce_unlisted hpoll (hnone past (by simp))
      refine hpath.free (by simp [hexecuted]) (ih hrun fun past' hmem => hnone past' ?_)
      rw [← List.cons_append]
      exact List.mem_append_left _ hmem

/-- The kept result of a task is accepted in the first of some polls, of which only the last gets a
listing. Then the task is executed from that listing if and only if the listing comes in a later
poll than the delivery and has the task without a result. -/
theorem executed_after_delivery_iff {failing later : List (List (Asked Action.Reply))}
    {delivering current : List (Asked Action.Reply)} {id : String} {result : TaskResult}
    {tasks : List Task}
    (hrun : PollRun hostId stopTimeoutSecs (polls ++ failing ++ current :: later) kept)
    (hfirst : (failing ++ [current]).head? = some delivering)
    (hdelivered : .resent id result true ∈ deeds false delivering)
    (hfailing : ∀ past ∈ failing, ∀ tasks, .listed tasks ∉ deeds false past)
    (hlisted : .listed tasks ∈ deeds false current) :
    id ∈ executedIds (deeds false current) ↔
      failing ≠ [] ∧ ∃ task ∈ tasks, task.id = id ∧ task.result = none := by
  rw [← List.singleton_append, ← List.append_assoc] at hrun
  obtain ⟨_, hrun⟩ := hrun.of_append
  obtain ⟨kept₀, _, hbefore, hpoll⟩ := hrun.last
  obtain ⟨ds, es, kept₁, hdeeds, hpath, hnone, honly, hlist, hopen⟩ := pollOnce_listed hpoll hlisted
  have hexecuted : id ∈ executedIds (deeds false current) ↔ id ∈ executedIds es := by
    rw [hdeeds, executedIds_append, hnone, List.nil_append, executedIds_cons_listed]
  rw [hexecuted]
  cases failing with
  | nil =>
      -- The delivery is in the poll of the listing, which leaves alone what it had kept.
      obtain rfl : current = delivering := by simpa using hfirst
      have hkeys : id ∈ kept₀.keys := by
        rw [hdeeds] at hdelivered
        have hresent : .resent id result true ∈ ds := by
          rcases List.mem_append.1 hdelivered with hmem | hmem
          · exact hmem
          · rcases List.mem_cons.1 hmem with heq | hmem
            · cases heq
            · obtain ⟨_, _, _, heq⟩ := honly _ hmem
              cases heq
        exact hpath.kept_of_resent (by simp [hnone]) hresent
      refine iff_of_false ?_ (fun h => h.1 rfl)
      intro hid
      obtain ⟨task, htask, rfl⟩ := hlist id hid
      obtain ⟨-, hnew⟩ := List.mem_filter.1 htask
      simp [hkeys] at hnew
  | cons first failing =>
      obtain rfl : first = delivering := by simpa using hfirst
      have hfree : kept₀.get? id = none := hbefore.free hdelivered hfailing
      have hkeys : id ∉ kept₀.keys := by
        rw [KeyMap.mem_keys_iff, hfree]
        simp
      constructor
      · intro hid
        obtain ⟨task, htask, rfl⟩ := hlist id hid
        obtain ⟨hmem, hnew⟩ := List.mem_filter.1 htask
        simp only [Bool.and_eq_true, Option.isNone_iff_eq_none] at hnew
        exact ⟨by simp, task, hmem, rfl, hnew.1⟩
      · rintro ⟨-, task, hmem, rfl, hresult⟩
        refine hopen task (List.mem_filter.2 ⟨hmem, ?_⟩) (hpath.free (by simp [hnone]) hfree)
        simp [hresult, hkeys]

end Runs

/-! ## A listing that comes too late

The first report of a result is not accepted. It is sent again and accepted, but then the tasks
cannot be had. The next poll gets a listing that has not caught up. -/

/-- A poll in which a kept result is accepted, and that gets no listing. -/
def unlisted : List (Asked Action.Reply) :=
  [⟨.central (.report "t1" webStarted), .ok ()⟩,
    ⟨.central (.pendingTasks "h1"), .error .transport⟩]

/-- The poll after it, in which the task is executed again. -/
def overtaken : List (Asked Action.Reply) :=
  [⟨.central (.pendingTasks "h1"), .ok [startWeb none]⟩,
    ⟨.engine (.start "web"), .ok ()⟩,
    ⟨.notice (.series (.taskExecuted true)), ()⟩,
    ⟨.notice (.event "h1" (.taskCompleted "t1" "start" true (some "web") "container started")), ()⟩,
    ⟨.central (.report "t1" webStarted), .ok ()⟩,
    ⟨.engine (.inspect "web"), .error (.unavailable "away")⟩]

theorem lateListing_run : PollRun "h1" 10 (threePolls.take 1 ++ [unlisted] ++ [overtaken]) ∅ := by
  have first : PollRun "h1" 10 (threePolls.take 1) (KeyMap.insert ∅ "t1" webStarted) :=
    .poll .start (.ask _ _ _ (.ask _ _ _ (.ask _ _ _ (.ask _ _ _ (.ask _ _ _ (.ask _ _ _
      (.here _)))))))
  have second : PollRun "h1" 10 (threePolls.take 1 ++ [unlisted]) ∅ :=
    .poll first (.ask _ _ _ (.ask _ _ _ (.here _)))
  exact .poll second (.ask _ _ _ (.ask _ _ _ (.ask _ _ _ (.ask _ _ _ (.ask _ _ _ (.ask _ _ _
    (.here _)))))))

/-- The first listing after the delivery is that of the last poll, and the task is executed from it
once more. -/
theorem executed_twice :
    PollRun "h1" 10 (threePolls.take 1 ++ [unlisted] ++ [overtaken]) ∅ ∧
    deeds false unlisted = [.resent "t1" webStarted true] ∧
    deeds false overtaken = [.listed [startWeb none], .executed "t1" webStarted true] ∧
    executedIds (account (threePolls.take 1 ++ [unlisted] ++ [overtaken])).flatten =
      ["t1", "t1"] :=
  ⟨lateListing_run, rfl, rfl, rfl⟩

/-- In the same polls, the condition under which this happens. -/
theorem executed_after_delivery_overtaken : "t1" ∈ executedIds (deeds false overtaken) := by
  have hdelivered : .resent "t1" webStarted true ∈ deeds false unlisted := List.mem_cons_self
  have hfailing : ∀ past ∈ [unlisted], ∀ tasks, .listed tasks ∉ deeds false past := by
    intro past hmem tasks
    obtain rfl := List.mem_singleton.1 hmem
    simp [show deeds false unlisted = [.resent "t1" webStarted true] from rfl]
  have hlisted : .listed [startWeb none] ∈ deeds false overtaken := List.mem_cons_self
  exact (executed_after_delivery_iff lateListing_run rfl hdelivered hfailing hlisted).2
    ⟨List.cons_ne_nil _ _, startWeb none, List.mem_cons_self, rfl, rfl⟩

end HostAgent.Tasks
