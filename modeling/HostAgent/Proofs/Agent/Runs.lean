import HostAgent.Proofs.Agent.Loops
import HostAgent.Proofs.Work.Interleaving

/-!
# Runs of the agent

An agent starts alone. If it comes to be registered, its loops run from then on,
and beside them it says that it is ready, and when it is told to stop, that it is
not. All of them take turns in any order. A run may stop anywhere: nothing is
assumed about who replies, or that anyone does, nor when the agent is told to stop.

## Main results

* `Agent.mem_merged`: what happened in an agent is what happened to its parties.
* `Agent.supervise_tells`: beside the loops nobody is asked for anything.
-/

namespace HostAgent.Agent

/-- Who acts in an agent: a loop, or what starts and stops the loops. -/
abbrev Party : Type := Option LoopKind

/-- What happened in an agent. -/
abbrev Trace : Type := List (Happening Party Action.Reply Empty)

/-- Replies to one party alone. -/
def only (who : Party) (past : List (Asked Action.Reply)) : Trace := past.map (.asked who)

/-- Replies to all parties, merged into one history. -/
def merged (hs : Trace) : List (Asked Action.Reply) :=
  hs.map fun
    | .asked _ e => e
    | .moved m => m.elim

theorem ownHistory_only_self (who : Party) (past : List (Asked Action.Reply)) :
    ownHistory who (only who past) = past := by
  simp [ownHistory, only, List.filterMap_map]

theorem ownHistory_only_of_ne {who other : Party} (h : who ≠ other)
    (past : List (Asked Action.Reply)) : ownHistory other (only who past) = [] := by
  simp [ownHistory, only, h]

theorem merged_append (first second : Trace) :
    merged (first ++ second) = merged first ++ merged second := List.map_append

theorem merged_only (who : Party) (past : List (Asked Action.Reply)) :
    merged (only who past) = past := by
  simp [merged, only, Function.comp_def]

theorem mem_merged {hs : Trace} {e : Asked Action.Reply} :
    e ∈ merged hs ↔ ∃ who, .asked who e ∈ hs := by
  rw [merged, List.mem_map]
  constructor
  · rintro ⟨who | m, hmem, rfl⟩
    · exact ⟨who, hmem⟩
    · exact m.elim
  · rintro ⟨who, hmem⟩
    exact ⟨_, hmem, rfl⟩

/-! ## Beside the loops -/

/-- What happens beside the loops, from their start on. -/
def supervise (host : HostRecord) : Work Unit := do
  announce
  closing
  farewell host

/-- A program that tells about the agent, and asks nobody for anything. -/
abbrev Tells {α : Type} (p : Work α) : Prop := p.Asking fun a => ∃ n, a = .notice n

theorem announce_tells : Tells announce := .ask ⟨_, rfl⟩ fun _ => .ask ⟨_, rfl⟩ fun _ => .done _

theorem closing_tells : Tells closing := .ask ⟨_, rfl⟩ fun _ => .done _

theorem farewell_tells (host : HostRecord) : Tells (farewell host) :=
  .ask ⟨_, rfl⟩ fun _ => .done _

theorem supervise_tells (host : HostRecord) : Tells (supervise host) :=
  announce_tells.bind fun _ => closing_tells.bind fun _ => farewell_tells host

/-! ## Runs -/

/-- The agent of a registered host: what its loops did, and what is left beside them. -/
structure Running (settings : AgentSettings) (host : HostRecord) (hs : Trace)
    (rest : Work Unit) : Prop where
  beside : (supervise host).Reaches (ownHistory none hs) rest
  loops : ∀ kind, ∃ left, LoopRun host.id settings ∅ kind (ownHistory (some kind) hs) left

/-- What an agent did so far, and how it ended if it has. -/
inductive Run (settings : AgentSettings) (detected : Option IpAddress) :
    Trace → Option (Except StartupError Unit) → Prop
  | starting {past : List (Asked Action.Reply)} {a : Action}
      {k : a.Reply → Work (Except StartupError HostRecord)} :
      (startup settings detected).Reaches past (.ask a k) →
      Run settings detected (only none past) none
  | refused {past : List (Asked Action.Reply)} {e : StartupError} :
      (startup settings detected).Yields past (.error e) →
      Run settings detected (only none past) (some (.error e))
  | running {past : List (Asked Action.Reply)} {host : HostRecord} {hs : Trace} {a : Action}
      {k : a.Reply → Work Unit} :
      (startup settings detected).Yields past (.ok host) → Running settings host hs (.ask a k) →
      Run settings detected (only none past ++ hs) none
  | ended {past : List (Asked Action.Reply)} {host : HostRecord} {hs : Trace} :
      (startup settings detected).Yields past (.ok host) → Running settings host hs (.done ()) →
      Run settings detected (only none past ++ hs) (some (.ok ()))

end HostAgent.Agent
