import HostAgent.Proofs.Agent.Questions
import HostAgent.Proofs.Agent.Runs
import HostAgent.Proofs.Health.History

/-!
# How the agent starts

The agent makes its first calls one by one. Each is made only if the one before
was a success, and whether the registration was one makes no difference to what is
called after it. All that comes later speaks for the registered host. The agent is
ready only after the registration was replied to, and is not when it has ended.

All this holds of every run of the agent, that is, whatever is replied and in
whatever order its loops take turns.

## Main results

* `startup_yields`: the complete histories of a start.
* `Run.calls_ordered`: which call may come next.
* `Run.reregister`: the same run with another reply to the registration.
* `Run.not_ready`, `Run.registered_of_ready`: when the agent is ready.
* `starts_in_order`: all of this together.
-/

namespace HostAgent

open HostAgent.Action (OfLoop)

/-- Whatever happens around it, a loop asks the questions of a loop. -/
theorem LoopRun.ofLoop {hostId : String} {settings : AgentSettings} {kept : Unreported}
    {kind : LoopKind} {past : List (Asked Action.Reply)} {rest : Work LoopState}
    (h : LoopRun hostId settings kept kind past rest) : ∀ e ∈ past, e.question.OfLoop hostId :=
  (h.asking (LoopState.start_asking hostId kept kind) (LoopState.wait_ofLoop hostId)
    (LoopState.resume_asking hostId settings)).1

namespace Agent

variable (settings : AgentSettings) (detected : Option IpAddress)

/-! ## The beginning -/

/-- The host that the agent registers, if it is told this about it. -/
def hostOf (info : SystemInfo) : HostRecord := HostRecord.ofFacts info settings.overrides detected

/-- Calls that were a success, before the registration. -/
def admitted (info : SystemInfo) : List (Asked Action.Reply) :=
  [⟨.central .checkAuth, .ok ()⟩, ⟨.engine .ping, .ok ()⟩, ⟨.engine .systemInfo, .ok info⟩]

/-- What the agent tells about the outcome of its registration. -/
def registration (host : HostRecord) : Except CentralError Unit → List (Asked Action.Reply)
  | .ok _ => [⟨.notice (.event host.id (.hostRegistered host.name host.ipAddress)), ()⟩]
  | .error e =>
    [⟨.notice (.line "Host registration failed"), ()⟩,
      ⟨.notice (.event host.id (.hostUnregistered host.name)), ()⟩,
      ⟨.notice (.health
        (.put "central_api" .degraded (some ("host unregistered: " ++ e.message)))), ()⟩]

/-- All that happens up to the start of the loops, with this outcome of the registration. -/
def beginning (info : SystemInfo) (reply : Except CentralError Unit) :
    List (Asked Action.Reply) :=
  ⟨.notice (.health .registerAll), ()⟩ :: admitted info ++
    ⟨.notice (.event (hostOf settings detected info).id (.started version settings.endpointLabel)),
      ()⟩ ::
    ⟨.central (.registerHost (hostOf settings detected info)), reply⟩ ::
    registration (hostOf settings detected info) reply

/-- Complete histories of a start. -/
inductive Started : List (Asked Action.Reply) → Except StartupError HostRecord → Prop
  | unauthorized (e : CentralError) :
      Started [⟨.notice (.health .registerAll), ()⟩, ⟨.central .checkAuth, .error e⟩]
        (.error (.unauthorized e))
  | unreachable (e : EngineError) :
      Started [⟨.notice (.health .registerAll), ()⟩, ⟨.central .checkAuth, .ok ()⟩,
        ⟨.engine .ping, .error e⟩,
        ⟨.notice (.health (.put "runtime" .unhealthy (some e.message))), ()⟩]
        (.error (.unreachable e))
  | uninformed (e : EngineError) :
      Started [⟨.notice (.health .registerAll), ()⟩, ⟨.central .checkAuth, .ok ()⟩,
        ⟨.engine .ping, .ok ()⟩, ⟨.engine .systemInfo, .error e⟩] (.error (.noSystemInfo e))
  | registered (info : SystemInfo) (reply : Except CentralError Unit) :
      Started (beginning settings detected info reply) (.ok (hostOf settings detected info))

variable {settings detected} {past : List (Asked Action.Reply)}
  {result : Except StartupError HostRecord}

theorem startup_yields (h : (startup settings detected).Yields past result) :
    Started settings detected past result := by
  obtain ⟨_, _, rfl, hauth⟩ := (Program.yields_ask _ _ _ _).1 h
  obtain ⟨authorized, _, rfl, hping⟩ := (Program.yields_ask _ _ _ _).1 hauth
  cases authorized with
  | error e =>
      obtain ⟨rfl, rfl⟩ := (Program.yields_done _ _ _).1 hping
      exact .unauthorized e
  | ok _ =>
      obtain ⟨reached, _, rfl, hinfo⟩ := (Program.yields_ask _ _ _ _).1 hping
      cases reached with
      | error e =>
          obtain ⟨_, _, rfl, hdone⟩ := (Program.yields_ask _ _ _ _).1 hinfo
          obtain ⟨rfl, rfl⟩ := (Program.yields_done _ _ _).1 hdone
          exact .unreachable e
      | ok _ =>
          obtain ⟨info, _, rfl, hlog⟩ := (Program.yields_ask _ _ _ _).1 hinfo
          cases info with
          | error e =>
              obtain ⟨rfl, rfl⟩ := (Program.yields_done _ _ _).1 hlog
              exact .uninformed e
          | ok info =>
              obtain ⟨_, _, rfl, hregister⟩ := (Program.yields_ask _ _ _ _).1 hlog
              obtain ⟨reply, _, rfl, htold⟩ := (Program.yields_ask _ _ _ _).1 hregister
              cases reply with
              | ok _ =>
                  obtain ⟨_, _, rfl, hdone⟩ := (Program.yields_ask _ _ _ _).1 htold
                  obtain ⟨rfl, rfl⟩ := (Program.yields_done _ _ _).1 hdone
                  exact .registered info (.ok ())
              | error e =>
                  obtain ⟨_, _, rfl, hevent⟩ := (Program.yields_ask _ _ _ _).1 htold
                  obtain ⟨_, _, rfl, hhealth⟩ := (Program.yields_ask _ _ _ _).1 hevent
                  obtain ⟨_, _, rfl, hdone⟩ := (Program.yields_ask _ _ _ _).1 hhealth
                  obtain ⟨rfl, rfl⟩ := (Program.yields_done _ _ _).1 hdone
                  exact .registered info (.error e)

/-- Any outcome of the registration is possible. -/
theorem beginning_yields (info : SystemInfo) (reply : Except CentralError Unit) :
    (startup settings detected).Yields (beginning settings detected info reply)
      (.ok (hostOf settings detected info)) := by
  refine .ask _ _ _ (.ask _ _ _ (.ask _ _ _ (.ask _ _ _ (.ask _ _ _ (.ask _ _ _ ?_)))))
  cases reply with
  | ok _ => exact .ask _ _ _ (.here _)
  | error e => exact .ask _ _ _ (.ask _ _ _ (.ask _ _ _ (.here _)))

/-! ## The order of calls -/

/-- The calls of an agent. -/
def calls (hs : Trace) : List (Asked Action.Reply) := callsOf (merged hs)

variable (settings detected) in
/-- Which call may come next, after these calls. -/
inductive Next : List (Asked Action.Reply) → Action → Prop
  | auth : Next [] (.central .checkAuth)
  | ping : Next [⟨.central .checkAuth, .ok ()⟩] (.engine .ping)
  | info : Next [⟨.central .checkAuth, .ok ()⟩, ⟨.engine .ping, .ok ()⟩] (.engine .systemInfo)
  | register (info : SystemInfo) :
      Next (admitted info) (.central (.registerHost (hostOf settings detected info)))
  | later (info : SystemInfo) (reply : Except CentralError Unit)
      (earlier : List (Asked Action.Reply)) {a : Action} :
      a.OfLoop (hostOf settings detected info).id →
      Next (admitted info ++
        ⟨.central (.registerHost (hostOf settings detected info)), reply⟩ :: earlier) a

variable (settings detected) in
/-- Each call is one that may come next. -/
def Ordered (cs : List (Asked Action.Reply)) : Prop :=
  ∀ before e after, cs = before ++ e :: after → Next settings detected before e.question

variable {cs : List (Asked Action.Reply)}

theorem Ordered.nil : Ordered settings detected [] := by
  intro before e after h
  simp at h

theorem Ordered.snoc (h : Ordered settings detected cs) {e : Asked Action.Reply}
    (he : Next settings detected cs e.question) : Ordered settings detected (cs ++ [e]) := by
  intro before e' after hsplit
  rcases List.eq_nil_or_concat after with rfl | ⟨after, last, rfl⟩
  · obtain ⟨rfl, hlast⟩ := List.append_inj' hsplit rfl
    rwa [← List.singleton_inj.1 hlast]
  · rw [List.concat_eq_append, ← List.cons_append, ← List.append_assoc] at hsplit
    exact h before e' after (List.append_inj' hsplit rfl).1

theorem Ordered.of_append {more : List (Asked Action.Reply)}
    (h : Ordered settings detected (cs ++ more)) : Ordered settings detected cs := by
  intro before e after hsplit
  exact h before e (after ++ more) (by simp [hsplit])

theorem Ordered.admitted (info : SystemInfo) : Ordered settings detected (admitted info) := by
  have hauth : Ordered settings detected [⟨.central .checkAuth, .ok ()⟩] := Ordered.nil.snoc .auth
  exact (hauth.snoc .ping).snoc .info

/-- After the registration, in any number. -/
theorem Ordered.registered (info : SystemInfo) (reply : Except CentralError Unit)
    {later : List (Asked Action.Reply)}
    (hlater : ∀ e ∈ later, e.question.OfLoop (hostOf settings detected info).id) :
    Ordered settings detected (Agent.admitted info ++
      ⟨.central (.registerHost (hostOf settings detected info)), reply⟩ :: later) := by
  induction later using List.reverseRecOn with
  | nil => exact (Ordered.admitted info).snoc (.register info)
  | append_singleton later e ih =>
      have hbefore := ih fun e' he' => hlater e' (List.mem_append_left _ he')
      have hnext := hbefore.snoc (e := e)
        (.later info reply later (hlater e (List.mem_append_right _ List.mem_cons_self)))
      simpa using hnext

theorem callsOf_beginning (info : SystemInfo) (reply : Except CentralError Unit) :
    callsOf (beginning settings detected info reply) = admitted info ++
      [⟨.central (.registerHost (hostOf settings detected info)), reply⟩] := by
  cases reply <;> rfl

theorem Started.ordered (h : Started settings detected past result) :
    Ordered settings detected (callsOf past) := by
  have hauth : ∀ reply, Ordered settings detected [⟨.central .checkAuth, reply⟩] :=
    fun _ => Ordered.nil.snoc .auth
  cases h with
  | unauthorized e => exact hauth (.error e)
  | unreachable e => exact (hauth (.ok ())).snoc (e := ⟨.engine .ping, .error e⟩) .ping
  | uninformed e =>
      have hping : Ordered settings detected
          [⟨.central .checkAuth, .ok ()⟩, ⟨.engine .ping, .ok ()⟩] := (hauth (.ok ())).snoc .ping
      exact hping.snoc (e := ⟨.engine .systemInfo, .error e⟩) .info
  | registered info reply =>
      rw [callsOf_beginning]
      exact Ordered.registered info reply (by simp)

/-! ## Runs -/

variable {hs : Trace} {outcome : Option (Except StartupError Unit)} {host : HostRecord}
  {rest : Work Unit}

/-- Beside the loops nothing is called, and the loops ask the questions of loops. -/
theorem Running.calls_ofLoop (h : Running settings host hs rest) :
    ∀ e ∈ calls hs, e.question.OfLoop host.id := by
  intro e he
  obtain ⟨hmem, hcall⟩ := List.mem_filter.1 he
  obtain ⟨who, hasked⟩ := mem_merged.1 hmem
  have hown := mem_ownHistory.2 hasked
  cases who with
  | none =>
      obtain ⟨n, hn⟩ := ((supervise_tells host).of_reaches h.beside).1 e hown
      rw [hn] at hcall
      cases hcall
  | some kind =>
      obtain ⟨left, hrun⟩ := h.loops kind
      exact hrun.ofLoop e hown

/-- A start that has ended well was a beginning. -/
theorem Started.eq_beginning (h : Started settings detected past (.ok host)) :
    ∃ info reply, past = beginning settings detected info reply ∧
      host = hostOf settings detected info := by
  cases h with
  | registered info reply => exact ⟨info, reply, rfl, rfl⟩

/-- The calls of an agent that has started. -/
theorem calls_running (info : SystemInfo) (reply : Except CentralError Unit) (hs : Trace) :
    calls (only none (beginning settings detected info reply) ++ hs) = admitted info ++
      ⟨.central (.registerHost (hostOf settings detected info)), reply⟩ :: calls hs := by
  rw [calls, merged_append, callsOf_append, merged_only, callsOf_beginning]
  simp [calls]

/-- Each call of a run may come next. -/
theorem Run.calls_ordered (h : Run settings detected hs outcome) :
    Ordered settings detected (calls hs) := by
  have hgoing : ∀ {past : List (Asked Action.Reply)} {host : HostRecord} {hs : Trace}
      {rest : Work Unit}, (startup settings detected).Yields past (.ok host) →
      Running settings host hs rest → Ordered settings detected (calls (only none past ++ hs)) := by
    intro past host hs rest hstart hrunning
    obtain ⟨info, reply, rfl, rfl⟩ := (startup_yields hstart).eq_beginning
    rw [calls_running]
    exact Ordered.registered info reply hrunning.calls_ofLoop
  cases h with
  | @starting past a k hreach =>
      obtain ⟨more, result, hmore⟩ := Program.exists_yields Action.nonempty_reply (.ask a k)
      have hstarted := startup_yields ((Program.reaches_append _ _).2 ⟨_, hreach, hmore⟩)
      have hordered := hstarted.ordered
      rw [callsOf_append] at hordered
      rw [calls, merged_only]
      exact hordered.of_append
  | refused hstart =>
      rw [calls, merged_only]
      exact (startup_yields hstart).ordered
  | running hstart hrunning => exact hgoing hstart hrunning
  | ended hstart hrunning => exact hgoing hstart hrunning

theorem only_eq_append {past : List (Asked Action.Reply)} {first second : Trace}
    (h : only none past = first ++ second) :
    ∃ before after, past = before ++ after ∧ first = only none before := by
  obtain ⟨before, after, rfl, rfl, -⟩ := List.map_eq_append_iff.1 h
  exact ⟨before, after, rfl, rfl⟩

theorem only_injective {before past : List (Asked Action.Reply)}
    (h : only none before = only none past) : before = past := by
  rw [← merged_only none before, h, merged_only]

/-- A trace that begins with a complete start has no other beginning. -/
theorem start_unique {begun : List (Asked Action.Reply)} {hs' : Trace}
    {left : Work (Except StartupError HostRecord)}
    (hbegun : (startup settings detected).Yields begun (.ok host))
    (hpast : (startup settings detected).Reaches past left)
    (htrace : only none begun ++ hs = only none past ++ hs')
    (hend : hs' = [] ∨ ∃ result, left = .done result) :
    left = .done (.ok host) ∧ hs = hs' := by
  rcases List.append_eq_append_iff.1 htrace with ⟨more, hpast', rfl⟩ | ⟨more, hbegun', rfl⟩
  · obtain ⟨before, after, rfl, hbefore⟩ := only_eq_append hpast'
    obtain rfl := only_injective hbefore
    obtain ⟨rfl, rfl⟩ := hbegun.complete hpast
    have hmore : more = [] := by simpa using hpast'
    exact ⟨rfl, by rw [hmore, List.nil_append]⟩
  · obtain ⟨before, after, rfl, hbefore⟩ := only_eq_append hbegun'
    obtain rfl := only_injective hbefore
    rcases hend with hend | ⟨result, rfl⟩
    · obtain ⟨rfl, rfl⟩ := List.append_eq_nil_iff.1 hend
      have hafter : after = [] := by simpa [only] using hbegun'
      subst hafter
      rw [List.append_nil] at hbegun
      exact ⟨Program.reaches_unique hpast hbegun, rfl⟩
    · obtain ⟨rfl, hleft⟩ := Program.Yields.complete hpast hbegun
      have hmore : more = [] := by simpa using hbegun'
      exact ⟨hleft.symm, by rw [hmore, List.nil_append]⟩

/-- A run that has started goes the same way whatever the outcome of the registration. -/
theorem Run.reregister {info : SystemInfo} {reply : Except CentralError Unit}
    (h : Run settings detected (only none (beginning settings detected info reply) ++ hs) outcome)
    (reply' : Except CentralError Unit) :
    Run settings detected (only none (beginning settings detected info reply') ++ hs) outcome := by
  have hbegun : (startup settings detected).Yields (beginning settings detected info reply)
      (.ok (hostOf settings detected info)) := beginning_yields info reply
  generalize htrace : only none (beginning settings detected info reply) ++ hs = trace at h
  cases h with
  | starting hreach =>
      obtain ⟨hleft, -⟩ := start_unique hbegun hreach (htrace.trans (List.append_nil _).symm)
        (.inl rfl)
      cases hleft
  | refused hstart =>
      obtain ⟨hleft, -⟩ := start_unique hbegun hstart (htrace.trans (List.append_nil _).symm)
        (.inl rfl)
      cases hleft
  | running hstart hrunning =>
      obtain ⟨hleft, rfl⟩ := start_unique hbegun hstart htrace (.inr ⟨_, rfl⟩)
      cases hleft
      exact .running (beginning_yields info reply') hrunning
  | ended hstart hrunning =>
      obtain ⟨hleft, rfl⟩ := start_unique hbegun hstart htrace (.inr ⟨_, rfl⟩)
      cases hleft
      exact .ended (beginning_yields info reply') hrunning

/-! ## Health -/

/-- The changes of the health of an agent. -/
def changes (hs : Trace) : List HealthChange := changesOf (merged hs)

theorem mem_changes {c : HealthChange} (h : c ∈ changes hs) :
    ∃ who, .asked who ⟨.notice (.health c), ()⟩ ∈ hs := mem_merged.1 (mem_changesOf h)

/-- Nothing is said about being ready before the loops start. -/
theorem startup_asking (settings : AgentSettings) (detected : Option IpAddress) :
    (startup settings detected).Asking fun a => ∀ value, a ≠ .notice (.health (.ready value)) := by
  refine .ask nofun fun _ => .ask nofun ?_
  rintro (_ | _)
  · exact .done _
  refine .ask nofun ?_
  rintro (_ | _)
  · exact .ask nofun fun _ => .done _
  refine .ask nofun ?_
  rintro (_ | _)
  · exact .done _
  refine .ask nofun fun _ => .ask nofun ?_
  rintro (_ | _)
  · exact .ask nofun fun _ => .ask nofun fun _ => .ask nofun fun _ => .done _
  · exact .ask nofun fun _ => .done _

/-- That the agent is ready is said only after its start. -/
theorem ready_not_mem {left : Work (Except StartupError HostRecord)} {who : Party} {value : Bool}
    (h : (startup settings detected).Reaches past left) :
    .asked who ⟨.notice (.health (.ready value)), ()⟩ ∉ only none past := by
  intro hmem
  obtain ⟨e, he, heq⟩ := List.mem_map.1 hmem
  cases heq
  exact ((startup_asking settings detected).of_reaches h).1 _ he value rfl

/-- Where the agent is ready, its registration was replied to. -/
theorem Run.registered_of_ready {before after : Trace} {r : HealthRegistry}
    (h : Run settings detected (before ++ after) outcome)
    (hr : HealthRegistry.After (changes before) r) (hready : r.ready = true) :
    ∃ host reply, .asked none ⟨.central (.registerHost host), reply⟩ ∈ before := by
  obtain ⟨who, hmem⟩ := mem_changes (hr.ready_mem hready)
  generalize htrace : before ++ after = trace at h
  have hstarting : ∀ {past left}, (startup settings detected).Reaches past left →
      only none past = before ++ after → False := by
    intro past left hreach heq
    exact ready_not_mem hreach (heq ▸ List.mem_append_left _ hmem)
  have hgoing : ∀ {past host hs}, (startup settings detected).Yields past (.ok host) →
      before ++ after = only none past ++ hs →
      ∃ host reply, .asked none ⟨.central (.registerHost host), reply⟩ ∈ before := by
    intro past host hs hstart heq
    rcases List.append_eq_append_iff.1 heq with ⟨more, hpast, -⟩ | ⟨more, rfl, -⟩
    · exact absurd (hpast ▸ List.mem_append_left _ hmem) (ready_not_mem hstart)
    · obtain ⟨info, reply, rfl, -⟩ := (startup_yields hstart).eq_beginning
      refine ⟨hostOf settings detected info, reply, List.mem_append_left _ ?_⟩
      exact List.mem_map_of_mem (by simp [beginning])
  cases h with
  | starting hreach => exact (hstarting hreach htrace.symm).elim
  | refused hstart => exact (hstarting hstart htrace.symm).elim
  | running hstart _ => exact hgoing hstart htrace
  | ended hstart _ => exact hgoing hstart htrace

/-- What happens beside the loops of an agent that has stopped. -/
theorem supervise_yields {told : List (Asked Action.Reply)}
    (h : (supervise host).Yields told ()) :
    told = [⟨.notice (.health (.ready true)), ()⟩, ⟨.notice (.line "Agent running"), ()⟩,
      ⟨.notice (.health (.ready false)), ()⟩,
      ⟨.notice (.event host.id (.shutdown "cancelled")), ()⟩] := by
  obtain ⟨_, _, rfl, hline⟩ := (Program.yields_ask _ _ _ _).1 h
  obtain ⟨_, _, rfl, hclosing⟩ := (Program.yields_ask _ _ _ _).1 hline
  obtain ⟨_, _, rfl, hfarewell⟩ := (Program.yields_ask _ _ _ _).1 hclosing
  obtain ⟨_, _, rfl, hdone⟩ := (Program.yields_ask _ _ _ _).1 hfarewell
  obtain ⟨rfl, -⟩ := (Program.yields_done _ _ _).1 hdone
  rfl

/-- An agent that has ended is not ready. -/
theorem Run.not_ready {result : Except StartupError Unit} {r : HealthRegistry}
    (h : Run settings detected hs (some result)) (hr : HealthRegistry.After (changes hs) r) :
    r.ready = false := by
  cases h with
  | refused hstart =>
      by_contra hready
      obtain ⟨who, hmem⟩ := mem_changes (hr.ready_mem (Bool.eq_true_of_not_eq_false hready))
      exact ready_not_mem hstart hmem
  | @ended past host hs hstart hrunning =>
      have hbeside : ownHistory none hs =
          [⟨.notice (.health (.ready true)), ()⟩, ⟨.notice (.line "Agent running"), ()⟩] ++
            ⟨.notice (.health (.ready false)), ()⟩ ::
            [⟨.notice (.event host.id (.shutdown "cancelled")), ()⟩] :=
        supervise_yields hrunning.beside
      obtain ⟨before, after, rfl, -, hafter⟩ := ownHistory_split hbeside
      have hlast : ∀ c ∈ changes after, c ≠ .ready true := by
        rintro c hc rfl
        obtain ⟨who, hmem⟩ := mem_changes hc
        have hown := mem_ownHistory.2 hmem
        cases who with
        | none => simp [hafter] at hown
        | some kind =>
            obtain ⟨left, hrun⟩ := hrunning.loops kind
            rw [ownHistory_append, ownHistory_asked, if_neg (by simp)] at hrun
            exact hrun.ofLoop _ (List.mem_append_right _ hown)
      have hchanges : changes (only none past ++
          (before ++ .asked none ⟨.notice (.health (.ready false)), ()⟩ :: after)) =
          changes (only none past ++ before) ++ .ready false :: changes after := by
        simp only [changes, merged_append, changesOf_append, List.append_assoc]
        rfl
      rw [hchanges] at hr
      exact hr.not_ready hlast

/-! ## All together -/

/-- A refused start, its calls, and what it says about the health. -/
theorem Run.refused_eq {e : StartupError} (h : Run settings detected hs (some (.error e))) :
    Started settings detected (merged hs) (.error e) := by
  cases h with
  | refused hstart =>
      rw [merged_only]
      exact startup_yields hstart

/-- A run that has ended well had its beginning. -/
theorem Run.ended_eq (h : Run settings detected hs (some (.ok ()))) :
    ∃ info reply rest, hs = only none (beginning settings detected info reply) ++ rest := by
  cases h with
  | ended hstart _ =>
      obtain ⟨info, reply, rfl, -⟩ := (startup_yields hstart).eq_beginning
      exact ⟨info, reply, _, rfl⟩

/-- What a failed registration does to the health of the agent. -/
def degradation : Except CentralError Unit → List HealthChange
  | .ok _ => []
  | .error e => [.put "central_api" .degraded (some ("host unregistered: " ++ e.message))]

theorem changes_running (info : SystemInfo) (reply : Except CentralError Unit) (hs : Trace) :
    changes (only none (beginning settings detected info reply) ++ hs) =
      .registerAll :: (degradation reply ++ changes hs) := by
  rw [changes, merged_append, changesOf_append, merged_only]
  cases reply <;> rfl

/-- Right after a registration that failed, the central server is degraded for that reason. -/
theorem wordOn?_unregistered {info : SystemInfo} {e : CentralError} {r : HealthRegistry}
    (hr : HealthRegistry.After
      (changes (only none (beginning settings detected info (.error e)))) r) :
    r.wordOn? "central_api" = some (.degraded, some ("host unregistered: " ++ e.message)) := by
  have hlast : HealthRegistry.After ([.registerAll] ++
      [.put "central_api" .degraded (some ("host unregistered: " ++ e.message))]) r := hr
  exact hlast.wordOn?_last rfl

theorem degradation_wordOn? {name : String} (h : name ≠ "central_api")
    (reply : Except CentralError Unit) :
    (degradation reply).filterMap (HealthChange.wordOn? name) = [] := by
  cases reply with
  | ok _ => rfl
  | error e =>
      have hnone : (HealthChange.put "central_api" .degraded
          (some ("host unregistered: " ++ e.message))).wordOn? name = none := if_neg h.symm
      exact List.filterMap_cons_none hnone

/-- What a registration comes to concerns the health of the central server alone. -/
theorem health_of_reply (info : SystemInfo) (reply reply' : Except CentralError Unit) (hs : Trace)
    {r r' : HealthRegistry}
    (hr : HealthRegistry.After
      (changes (only none (beginning settings detected info reply) ++ hs)) r)
    (hr' : HealthRegistry.After
      (changes (only none (beginning settings detected info reply') ++ hs)) r') :
    r'.ready = r.ready ∧ ∀ name, name ≠ "central_api" → r'.wordOn? name = r.wordOn? name := by
  rw [changes_running] at hr hr'
  constructor
  · rw [hr.ready_eq, hr'.ready_eq]
    cases reply <;> cases reply' <;> rfl
  · intro name hname
    rw [hr.wordOn?_eq, hr'.wordOn?_eq, HealthRegistry.lastWord, HealthRegistry.lastWord]
    simp [List.filterMap_cons, List.filterMap_append, degradation_wordOn? hname]

/-- Whatever is replied, by whom and in which order, a run of the agent

* makes its first calls one by one, each after a success, the registration of its host last; all
  later calls are those of loops of this host, whose id is not empty;
* makes no call after one of these that failed, and says that the engine is not well if it did not
  answer;
* goes the same way whatever the outcome of the registration, but for the central server being
  degraded after a failure, and nothing else of the health depends on it;
* is ready only where the registration was replied to, and not when it has ended. -/
theorem starts_in_order (h : Run settings detected hs outcome) :
    Ordered settings detected (calls hs) ∧
    (∀ info, (hostOf settings detected info).id ≠ "") ∧
    (∀ e, outcome = some (.error (.unauthorized e)) →
      calls hs = [⟨.central .checkAuth, .error e⟩]) ∧
    (∀ e, outcome = some (.error (.unreachable e)) →
      calls hs = [⟨.central .checkAuth, .ok ()⟩, ⟨.engine .ping, .error e⟩] ∧
      ∀ r, HealthRegistry.After (changes hs) r → ∃ now,
        r.components.get? "runtime" = some ⟨.unhealthy, some e.message, now⟩) ∧
    (∀ e, outcome = some (.error (.noSystemInfo e)) →
      calls hs = [⟨.central .checkAuth, .ok ()⟩, ⟨.engine .ping, .ok ()⟩,
        ⟨.engine .systemInfo, .error e⟩]) ∧
    (outcome = some (.ok ()) →
      ∃ info reply rest, hs = only none (beginning settings detected info reply) ++ rest) ∧
    (∀ info reply rest, hs = only none (beginning settings detected info reply) ++ rest →
      ∀ reply', Run settings detected
          (only none (beginning settings detected info reply') ++ rest) outcome ∧
        calls (only none (beginning settings detected info reply') ++ rest) = admitted info ++
          ⟨.central (.registerHost (hostOf settings detected info)), reply'⟩ :: calls rest ∧
        changes (only none (beginning settings detected info reply') ++ rest) =
          .registerAll :: (degradation reply' ++ changes rest) ∧
        ∀ r r', HealthRegistry.After (changes hs) r →
          HealthRegistry.After
            (changes (only none (beginning settings detected info reply') ++ rest)) r' →
          r'.ready = r.ready ∧ ∀ name, name ≠ "central_api" → r'.wordOn? name = r.wordOn? name) ∧
    (∀ info e r, HealthRegistry.After
        (changes (only none (beginning settings detected info (.error e)))) r →
      r.wordOn? "central_api" = some (.degraded, some ("host unregistered: " ++ e.message))) ∧
    (∀ before after r, hs = before ++ after → HealthRegistry.After (changes before) r →
      r.ready = true → ∃ host reply, .asked none ⟨.central (.registerHost host), reply⟩ ∈ before) ∧
    (outcome.isSome → ∀ r, HealthRegistry.After (changes hs) r → r.ready = false) := by
  refine ⟨h.calls_ordered, fun info => HostRecord.id_ne_empty info _ _, ?_, ?_, ?_, ?_, ?_,
    fun info e r => wordOn?_unregistered, ?_, ?_⟩
  · rintro e rfl
    have hstarted := h.refused_eq
    generalize hpast : merged hs = past at hstarted
    cases hstarted
    rw [calls, hpast]
    rfl
  · rintro e rfl
    have hstarted := h.refused_eq
    generalize hpast : merged hs = past at hstarted
    cases hstarted
    refine ⟨by rw [calls, hpast]; rfl, ?_⟩
    intro r hr
    rw [changes, hpast] at hr
    have hlast : HealthRegistry.After
        ([.registerAll] ++ [.put "runtime" .unhealthy (some e.message)]) r := hr
    obtain ⟨now, before, -, rfl⟩ := hlast.last
    exact ⟨now, by simp [HealthRegistry.apply]⟩
  · rintro e rfl
    have hstarted := h.refused_eq
    generalize hpast : merged hs = past at hstarted
    cases hstarted
    rw [calls, hpast]
    rfl
  · rintro rfl
    exact h.ended_eq
  · rintro info reply rest rfl reply'
    exact ⟨h.reregister reply', calls_running info reply' rest, changes_running info reply' rest,
      fun r r' => health_of_reply info reply reply' rest⟩
  · rintro before after r rfl hr hready
    exact h.registered_of_ready hr hready
  · intro hend r hr
    obtain ⟨result, rfl⟩ := Option.isSome_iff_exists.1 hend
    exact h.not_ready hr

/-! ## An agent that is not registered

Its registration fails, a measurement is sent nevertheless, and the agent is told to stop. -/

def smallHost : SystemInfo := ⟨"engine-1", "node", 4, 8⟩

def idle : HostMetrics := ⟨.ofFloat 0, 0, .ofFloat 0, .epoch⟩

/-- Its metrics loop begins, waits and takes one turn. -/
def measured : List (Asked Action.Reply) :=
  [⟨.notice (.line "Starting host metrics reporter"), ()⟩, ⟨.now, .zero⟩, ⟨.sleepUntil .zero, ()⟩,
    ⟨.now, .zero⟩, ⟨.sleep Metrics.primingTime, ()⟩, ⟨.measure, idle⟩,
    ⟨.central (.pushMetrics "engine-1" idle), .ok ()⟩, ⟨.notice (.line "Host metrics pushed"), ()⟩,
    ⟨.notice (.health (.healthy ComponentName.metricsReporter)), ()⟩]

/-- After the start: the agent is ready while its loop measures, and then it is not. -/
def lonely : Trace :=
  only none [⟨.notice (.health (.ready true)), ()⟩, ⟨.notice (.line "Agent running"), ()⟩] ++
    only (some .metrics) measured ++
    only none [⟨.notice (.health (.ready false)), ()⟩,
      ⟨.notice (.event "engine-1" (.shutdown "cancelled")), ()⟩]

theorem lonely_running :
    Running default (hostOf default none smallHost) lonely (.done ()) where
  beside := .ask _ _ _ (.ask _ _ _ (.ask _ _ _ (.ask _ _ _ (.here _))))
  loops := by
    intro kind
    cases kind with
    | metrics =>
        have hbegun : LoopRun (hostOf default none smallHost).id default ∅ .metrics
            (measured.take 2) (.done (.metrics ⟨.zero, false⟩)) :=
          .begun (.ask _ _ _ (.ask _ _ _ (.here _)))
        show ∃ left, LoopRun _ default ∅ .metrics
          (measured.take 2 ++ ⟨.sleepUntil .zero, ()⟩ :: measured.drop 3) left
        exact ⟨_, .turn (s := .metrics ⟨.zero, false⟩) () hbegun (.ask _ _ _ (.ask _ _ _
          (.ask _ _ _ (.ask _ _ _ (.ask _ _ _ (.ask _ _ _ (.here _)))))))⟩
    | _ => exact ⟨_, .begun (.here _)⟩

/-- The agent speaks for its host although it is not registered. The registration could as well have
been a success. -/
theorem starts_in_order_unregistered :
    let start := only none (beginning default none smallHost (.error .transport))
    Run default none (start ++ lonely) (some (.ok ())) ∧
      Ordered default none (calls (start ++ lonely)) ∧
      calls (start ++ lonely) = admitted smallHost ++
        [⟨.central (.registerHost (hostOf default none smallHost)), .error .transport⟩,
          ⟨.central (.pushMetrics "engine-1" idle), .ok ()⟩] ∧
      Run default none (only none (beginning default none smallHost (.ok ())) ++ lonely)
        (some (.ok ())) ∧
      ∀ r, HealthRegistry.After (changes (start ++ lonely)) r → r.ready = false := by
  intro start
  have hrun : Run default none (start ++ lonely) (some (.ok ())) :=
    .ended (beginning_yields smallHost (.error .transport)) lonely_running
  obtain ⟨hordered, -, -, -, -, -, hanyway, -, -, hend⟩ := starts_in_order hrun
  exact ⟨hrun, hordered, rfl, (hanyway smallHost (.error .transport) lonely rfl (.ok ())).1,
    hend rfl⟩

end Agent

end HostAgent
