import HostAgent.Agent
import HostAgent.Proofs.Work.History

/-!
# Runs of loops

A loop begins, and then waits and takes a turn, again and again. Nothing is said
about who replies, at a wait or along a turn, so a statement about every run of a
loop holds whatever happens around it. A run may stop anywhere, at a wait or
within a turn: a loop ends where it waits when it is told to, and work may be
given up in the middle.

## Main results

* `LoopRun.extend`, `LoopRun.wake`: a run goes on with any reply.
* `LoopRun.asking`: what holds of all questions of a beginning, of a wait and of a
  turn holds along a run, and of what is left.
-/

namespace HostAgent

/-- What a loop did so far, and what is left of its turn; at a wait nothing is left. -/
inductive LoopRun (hostId : String) (settings : AgentSettings) (kept : Unreported)
    (kind : LoopKind) : List (Asked Action.Reply) → Work LoopState → Prop
  | begun {past : List (Asked Action.Reply)} {rest : Work LoopState} :
      (LoopState.start kept kind).Reaches past rest → LoopRun hostId settings kept kind past rest
  | turn {past more : List (Asked Action.Reply)} {s : LoopState} {rest : Work LoopState}
      (reply : s.wait.Reply) :
      LoopRun hostId settings kept kind past (.done s) →
      (s.resume hostId settings reply).Reaches more rest →
      LoopRun hostId settings kept kind (past ++ ⟨s.wait, reply⟩ :: more) rest

namespace LoopRun

variable {hostId : String} {settings : AgentSettings} {kept : Unreported} {kind : LoopKind}
  {past more : List (Asked Action.Reply)} {p rest : Work LoopState}

/-- A turn goes on. -/
theorem extend (h : LoopRun hostId settings kept kind past p) (hmore : p.Reaches more rest) :
    LoopRun hostId settings kept kind (past ++ more) rest := by
  cases h with
  | begun hbegun => exact .begun ((Program.reaches_append _ _).2 ⟨p, hbegun, hmore⟩)
  | turn reply hbefore hturn =>
      rw [List.append_assoc, List.cons_append]
      exact .turn reply hbefore ((Program.reaches_append _ _).2 ⟨p, hturn, hmore⟩)

/-- A loop that waits takes a turn. -/
theorem wake {s : LoopState} (h : LoopRun hostId settings kept kind past (.done s))
    (reply : s.wait.Reply) :
    LoopRun hostId settings kept kind (past ++ [⟨s.wait, reply⟩])
      (s.resume hostId settings reply) :=
  .turn reply h (.here _)

/-- What holds of all questions of a beginning, of a wait and of a turn holds along a run. -/
theorem asking {P : Action → Prop}
    (h : LoopRun hostId settings kept kind past rest)
    (hstart : (LoopState.start kept kind).Asking P)
    (hwait : ∀ s : LoopState, P s.wait)
    (hresume : ∀ (s : LoopState) reply, (s.resume hostId settings reply).Asking P) :
    (∀ e ∈ past, P e.question) ∧ rest.Asking P := by
  induction h with
  | begun hbegun => exact hstart.of_reaches hbegun
  | @turn past more s rest reply _ hturn ih =>
      obtain ⟨hmore, hrest⟩ := (hresume s reply).of_reaches hturn
      refine ⟨?_, hrest⟩
      intro e he
      rcases List.mem_append.1 he with he | he
      · exact ih.1 e he
      · rcases List.mem_cons.1 he with rfl | he
        · exact hwait s
        · exact hmore e he

end LoopRun

end HostAgent
