import HostAgent.Agent
import HostAgent.Proofs.Work.History

/-!
# What each part of the agent asks

Which questions a part of the agent may ever ask, whatever is replied. Parts that
make up others are listed first, so that what a loop asks follows from what its
parts ask.

## Main results

* `Reconcile.handle_asking`: handling an event.
* `Tasks.deploy_asking`: a deployment.
* `Tasks.execute_asking`, `Tasks.converge_asking`: carrying a task out, and what follows it.
* `LoopState.start_asking`, `LoopState.resume_asking`: the loops of a host.
-/

namespace HostAgent

open Program (Asking)

namespace Action

/-- Questions of syncing containers of a host one by one. -/
def OfSync (hostId : String) : Action → Prop
  | .engine (.inspect _) => True
  | .central (.sync record) => record.hostId = hostId
  | .notice (.series change) => change ≠ .reconnected
  | _ => False

/-- Questions of a handler. It neither opens a subscription nor takes an item from one, waits for
nothing, and tells nothing about the stream. -/
def OfHandler (hostId : String) : Action → Prop
  | .central (.delete _) | .central (.removeIgnored _) => True
  | a => a.OfSync hostId

/-- Questions of carrying out a task, which never looks at a container. -/
def OfExecution : Action → Prop
  | .engine .ping | .engine .systemInfo | .engine (.list _) | .engine (.inspect _) => False
  | .engine _ | .notice (.line _) => True
  | _ => False

/-- Questions of a deployment. It asks about no other image than that of the spec, and creates what
the spec asks for. -/
def OfDeployment (spec : ContainerSpec) : Action → Prop
  | .engine (.inspectImage image) | .engine (.pull image) => image = spec.image
  | .engine (.create request) => request = spec.createRequest
  | .engine (.start _) | .engine (.remove ..) | .notice (.line _) => True
  | _ => False

/-- Questions of a loop of a host. It speaks for that host alone, and leaves it to others to start
the agent and to say whether it is ready. -/
def OfLoop (hostId : String) : Action → Prop
  | .engine .ping | .engine .systemInfo | .central .checkAuth | .central (.registerHost _) => False
  | .central (.sync record) => record.hostId = hostId
  | .central (.pendingTasks id) | .central (.pushMetrics id _) => id = hostId
  | .notice (.health .registerAll) | .notice (.health (.ready _)) => False
  | _ => True

variable {hostId : String} {a : Action}

theorem OfSync.handler (h : a.OfSync hostId) : a.OfHandler hostId := by
  cases a with
  | central call => cases call <;> first | exact h | trivial
  | _ => exact h

theorem OfHandler.loop (h : a.OfHandler hostId) : a.OfLoop hostId := by
  cases a with
  | engine call => cases call <;> trivial
  | central call => cases call <;> first | exact h | trivial
  | notice n => cases n <;> trivial
  | _ => trivial

theorem OfDeployment.execution {spec : ContainerSpec} (h : a.OfDeployment spec) :
    a.OfExecution := by
  cases a with
  | engine call => cases call <;> first | exact h.elim | trivial
  | notice n => cases n <;> first | exact h.elim | trivial
  | _ => exact h.elim

theorem OfExecution.loop (h : a.OfExecution) : a.OfLoop hostId := by
  cases a with
  | engine call => cases call <;> trivial
  | central call => exact h.elim
  | notice n => cases n <;> trivial
  | _ => trivial

end Action

/-- Every question may get some reply. -/
theorem Action.nonempty_reply (a : Action) : Nonempty a.Reply := by
  cases a with
  | engine call => exact ⟨.error (.unavailable "")⟩
  | central call => exact ⟨.error .transport⟩
  | nextEvent => exact ⟨none⟩
  | now => exact ⟨.zero⟩
  | measure => exact ⟨⟨.ofFloat 0, 0, .ofFloat 0, .epoch⟩⟩
  | _ => exact ⟨()⟩

/-! ## What is counted -/

/-- The series after what was told in a history. -/
def Series.after (s : Series) (past : List (Asked Action.Reply)) : Series :=
  past.foldl
    (fun s e =>
      match e.question with
      | .notice (.series change) => s.apply change
      | _ => s)
    s

theorem Series.after_append (s : Series) (first second : List (Asked Action.Reply)) :
    s.after (first ++ second) = (s.after first).after second :=
  List.foldl_append

/-! ## What is called -/

/-- Calls to the engine and to the central server. -/
def Action.isCall : Action → Bool
  | .engine _ | .central _ | .subscribe | .nextEvent => true
  | _ => false

namespace Agent

/-- Calls of a history. -/
def callsOf (past : List (Asked Action.Reply)) : List (Asked Action.Reply) :=
  past.filter (·.question.isCall)

theorem callsOf_append (first second : List (Asked Action.Reply)) :
    callsOf (first ++ second) = callsOf first ++ callsOf second := List.filter_append ..

/-! ## What is told -/

/-- The entries of the log in a history. -/
def loggedOf (past : List (Asked Action.Reply)) : List LogEntry :=
  past.filterMap fun
    | ⟨.notice (.event hostId event), _⟩ => some (event.entry hostId)
    | _ => none

theorem loggedOf_append (first second : List (Asked Action.Reply)) :
    loggedOf (first ++ second) = loggedOf first ++ loggedOf second := List.filterMap_append

/-- The changes of the health in a history. -/
def changesOf (past : List (Asked Action.Reply)) : List HealthChange :=
  past.filterMap fun
    | ⟨.notice (.health change), _⟩ => some change
    | _ => none

theorem changesOf_append (first second : List (Asked Action.Reply)) :
    changesOf (first ++ second) = changesOf first ++ changesOf second := List.filterMap_append

theorem mem_changesOf {past : List (Asked Action.Reply)} {c : HealthChange}
    (h : c ∈ changesOf past) : ⟨.notice (.health c), ()⟩ ∈ past := by
  obtain ⟨⟨q, r⟩, hmem, hc⟩ := List.mem_filterMap.1 h
  split at hc
  · rename_i hq
    cases hq
    obtain rfl := Option.some.inj hc
    exact hmem
  · cases hc

end Agent

open HostAgent.Action (OfSync OfHandler OfDeployment OfExecution OfLoop)

/-! ## Containers -/

namespace Reconcile

theorem syncOne_asking (hostId id : String) : (syncOne hostId id).Asking (OfSync hostId) := by
  refine .ask trivial ?_
  rintro (e | d)
  · exact .done _
  · refine .ask rfl ?_
    rintro (e | outcome)
    · exact .ask SeriesChange.noConfusion fun _ => .done _
    · refine .ask ?_ fun _ => .done _
      simp only [OfSync]
      split <;> exact SeriesChange.noConfusion

theorem forget_asking (hostId id : String) : (forget id).Asking (OfHandler hostId) :=
  .ask trivial fun _ => .ask trivial fun _ => .done _

theorem handle_asking (hostId : String) (e : LifecycleEvent) :
    (handle hostId e).Asking (OfHandler hostId) := by
  unfold handle
  cases EventAction.ofAction e.action with
  | resync clearIgnore =>
      have hsync := ((syncOne_asking hostId e.containerId).mono fun _ => OfSync.handler).bind
        (f := fun r => .done (r.map fun _ => ())) fun _ => .done _
      cases clearIgnore with
      | true => exact .ask trivial fun _ => hsync
      | false => exact hsync
  | gone => exact (forget_asking hostId e.containerId).bind fun _ => .done _
  | ignore => exact .done _

theorem syncEach_asking (hostId : String) (wait : Duration) (refs : List ContainerRef)
    (r : FullSyncReport) : (syncEach hostId wait refs r).Asking (OfLoop hostId) := by
  have hone : ∀ id, (syncOne hostId id).Asking (OfLoop hostId) := fun id =>
    (syncOne_asking hostId id).mono fun _ h => h.handler.loop
  induction refs generalizing r with
  | nil => exact .done _
  | cons c cs ih =>
      cases cs with
      | nil => exact (hone c.id).bind fun _ => .done _
      | cons c' cs => exact (hone c.id).bind fun _ => .ask trivial fun _ => ih _

theorem purge_asking (hostId : String) (present : List String) :
    (purge present).Asking (OfLoop hostId) := by
  have hremove : ∀ entries, (removeEntries entries).Asking (OfLoop hostId) := by
    intro entries
    induction entries with
    | nil => exact .done _
    | cons e es ih => exact .ask trivial fun _ => ih.bind fun _ => .done _
  refine .ask trivial ?_
  rintro (e | entries)
  · exact .done _
  · exact hremove _

theorem fullSync_asking (hostId : String) (wait : Duration) :
    (fullSync hostId wait).Asking (OfLoop hostId) := by
  refine .ask trivial fun started => .ask trivial ?_
  rintro (e | containers)
  · exact .done _
  · refine (syncEach_asking hostId wait containers _).bind fun report => ?_
    refine (purge_asking hostId _).bind fun purged => ?_
    exact .ask trivial fun _ => .ask trivial fun _ => .ask trivial fun _ => .ask trivial fun _ =>
      .done _

end Reconcile

/-! ## Tasks -/

namespace Tasks

theorem pullImage_asking (spec : ContainerSpec) :
    (pullImage spec.image spec.pullPolicy).Asking (OfDeployment spec) := by
  have hpull : (Work.engine (.pull spec.image) >>= fun r =>
      pure (r.map fun _ => true) : Work (Except EngineError Bool)).Asking (OfDeployment spec) :=
    .ask rfl fun _ => .done _
  cases spec.pullPolicy with
  | never => exact .done _
  | always => exact hpull
  | ifNotPresent =>
      refine .ask rfl ?_
      rintro (_ | _)
      · exact hpull
      · exact .done _

theorem deploy_asking (spec : ContainerSpec) : (deploy spec).Asking (OfDeployment spec) := by
  refine (pullImage_asking spec).bind ?_
  rintro (_ | pulled)
  · exact .done _
  refine .ask rfl ?_
  rintro (_ | id)
  · exact .done _
  refine .ask trivial ?_
  rintro (_ | _)
  · exact .ask trivial fun _ => .ask trivial fun _ => .done _
  · exact .done _

theorem remove_asking (id : String) (force : Bool) : (remove id force).Asking OfExecution :=
  .ask trivial fun _ => .done _

theorem delete_asking (id : String) (force : Bool) (timeoutSecs : Nat) :
    (delete id force timeoutSecs).Asking OfExecution := by
  unfold delete
  split
  · exact remove_asking _ _
  · refine .ask trivial ?_
    rintro (e | _)
    · show (if _ then _ else _ : Work (Except EngineError TaskResult)).Asking OfExecution
      split
      · exact remove_asking _ _
      · exact .done _
    · exact remove_asking _ _

theorem execute_asking (task : Task) (stopTimeoutSecs : Nat) :
    (execute task stopTimeoutSecs).Asking OfExecution := by
  have hcontainer : ∀ id timeoutSecs, (onContainer task id timeoutSecs).Asking OfExecution := by
    intro id timeoutSecs
    unfold onContainer
    split
    · exact delete_asking _ _ _
    · exact .ask trivial fun _ => .done _
    · exact .ask trivial fun _ => .done _
    · exact .ask trivial fun _ => .done _
    · exact .ask trivial fun _ => .done _
  have hdispatch : (dispatch task stopTimeoutSecs).Asking OfExecution := by
    unfold dispatch
    split
    · split
      · exact .done _
      · exact ((deploy_asking _).mono fun _ => OfDeployment.execution).bind fun _ => .done _
    · split
      · exact .done _
      · exact (hcontainer _ _).bind fun _ => .done _
  refine hdispatch.bind ?_
  rintro (_ | _) <;> exact .done _

theorem converge_asking (hostId : String) (task : Task) (result : TaskResult) :
    (converge hostId task result).Asking (OfHandler hostId) := by
  unfold converge
  split
  · exact .done _
  · rename_i id _
    split
    · exact (Reconcile.forget_asking hostId id).bind fun _ => .done _
    · exact ((Reconcile.syncOne_asking hostId id).mono fun _ => OfSync.handler).bind fun _ =>
        .done _

theorem process_asking (hostId : String) (stopTimeoutSecs : Nat) (task : Task)
    (kept : Unreported) : (process hostId stopTimeoutSecs task kept).Asking (OfLoop hostId) := by
  refine Asking.bind ((execute_asking task stopTimeoutSecs).mono fun _ => OfExecution.loop) ?_
  intro result
  refine .ask trivial fun _ => .ask trivial fun _ => .ask trivial fun _ => ?_
  exact ((converge_asking hostId task result).mono fun _ => OfHandler.loop).bind fun _ => .done _

theorem flush_asking (hostId : String) (entries : List (String × TaskResult)) (kept : Unreported) :
    (flush entries kept).Asking (OfLoop hostId) := by
  induction entries generalizing kept with
  | nil => exact .done _
  | cons e entries ih =>
      refine .ask trivial ?_
      rintro (_ | _) <;> exact ih _

theorem pollOnce_asking (hostId : String) (stopTimeoutSecs : Nat) (kept : Unreported) :
    (pollOnce hostId stopTimeoutSecs kept).Asking (OfLoop hostId) := by
  have heach : ∀ resent tasks kept,
      (processEach hostId stopTimeoutSecs resent tasks kept).Asking (OfLoop hostId) := by
    intro resent tasks
    induction tasks with
    | nil => exact fun _ => .done _
    | cons task tasks ih =>
        intro kept
        unfold processEach
        split
        · exact ih kept
        · exact (process_asking hostId stopTimeoutSecs task kept).bind fun kept =>
            (ih kept).bind fun _ => .done _
  refine (flush_asking hostId _ _).bind fun kept => .ask rfl ?_
  rintro (_ | tasks)
  · exact .done _
  · exact (heach _ _ _).bind fun _ => .done _

end Tasks

/-! ## Loops -/

/-- How a loop closes a turn: a line of the log after a failure, and how it fares. -/
theorem closing_asking {α : Type} (hostId : String) (failed : Bool) (text name : String)
    (error : Option String) (a : α) :
    (do
      if failed then Work.say text
      Work.health (.outcome name error)
      return a : Work α).Asking (OfLoop hostId) := by
  have hhealth : (Work.health (.outcome name error) >>= fun _ => pure a : Work α).Asking
      (OfLoop hostId) := by
    refine .ask ?_ fun _ => .done _
    cases error <;> trivial
  cases failed with
  | true => exact .ask trivial fun _ => hhealth
  | false => exact hhealth

theorem EventLoop.resume_asking (hostId : String) (delay : Duration) (s : EventLoop)
    (reply : s.wait.Reply) : (s.resume hostId delay reply).Asking (OfLoop hostId) := by
  have hinterrupted : ∀ reason, (interrupted hostId delay reason).Asking (OfLoop hostId) :=
    fun _ => .ask trivial fun _ => .ask trivial fun _ => .ask trivial fun _ => .ask trivial fun _ =>
      .done _
  cases s with
  | pausing instant => exact .ask trivial fun _ => .ask trivial fun _ => .done _
  | listening =>
      match reply with
      | none => exact hinterrupted _
      | some (.error e) => exact hinterrupted _
      | some (.ok event) =>
          refine ((Reconcile.handle_asking hostId event).mono fun _ => OfHandler.loop).bind ?_
          rintro (_ | _)
          · exact .ask trivial fun _ => .done _
          · exact .done _

theorem Metrics.reportOnce_asking (hostId : String) (primed : Bool) :
    (reportOnce hostId primed).Asking (OfLoop hostId) := by
  cases primed with
  | true =>
      refine .ask trivial fun metrics => .ask rfl ?_
      rintro (_ | _) <;> exact .ask trivial fun _ => .done _
  | false =>
      refine .ask trivial fun _ => .ask trivial fun metrics => .ask rfl ?_
      rintro (_ | _) <;> exact .ask trivial fun _ => .done _

namespace LoopState

theorem start_asking (hostId : String) (kept : Unreported) (kind : LoopKind) :
    (start kept kind).Asking (OfLoop hostId) := by
  cases kind with
  | events => exact .ask trivial fun _ => .ask trivial fun _ => .ask trivial fun _ => .done _
  | periodic => exact .ask trivial fun _ => .ask trivial fun _ => .done _
  | tasks => exact .ask trivial fun _ => .ask trivial fun _ => .done _
  | metrics => exact .ask trivial fun _ => .ask trivial fun _ => .done _

theorem wait_ofLoop (hostId : String) (s : LoopState) : s.wait.OfLoop hostId := by
  cases s with
  | events s => cases s <;> trivial
  | _ => trivial

theorem resume_asking (hostId : String) (settings : AgentSettings) (s : LoopState)
    (reply : s.wait.Reply) : (s.resume hostId settings reply).Asking (OfLoop hostId) := by
  cases s with
  | events s => exact (s.resume_asking hostId _ reply).bind fun _ => .done _
  | periodic due =>
      refine Asking.bind (.ask trivial fun _ => ?_) fun _ => .done _
      exact (Reconcile.fullSync_asking hostId _).bind fun _ => closing_asking hostId _ _ _ _ _
  | tasks s =>
      refine Asking.bind (.ask trivial fun _ => ?_) fun _ => .done _
      exact (Tasks.pollOnce_asking hostId _ _).bind fun _ => closing_asking hostId _ _ _ _ _
  | metrics s =>
      refine Asking.bind (.ask trivial fun _ => ?_) fun _ => .done _
      exact (Metrics.reportOnce_asking hostId _).bind fun _ => closing_asking hostId _ _ _ _ _

end LoopState

end HostAgent
