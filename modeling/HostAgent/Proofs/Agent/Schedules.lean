import HostAgent.Proofs.Agent.Runs
import HostAgent.World.Schedule

/-!
# Running loops in virtual time

Running loops side by side, as a schedule does, is one of the ways in which they
can take turns. So what holds of every run of the agent holds of the runs in
virtual time, whatever their surroundings are and however long they take.

Surroundings can write down all replies that they give. The invariant of a
schedule says that what was written down is the trace of an agent in which each
loop stands where its strand does.

## Main results

* `Schedule.Follows.advance`: running on keeps the invariant.
* `Schedule.begun_follows`: the loops that have just begun.
* `Schedule.shutdown_run`: an agent that is started, runs and is stopped makes a run.
-/

namespace HostAgent

open Agent (Trace merged only)

variable {W α : Type} {env : Surroundings W}

/-- Surroundings that write down the replies they give. -/
def Surroundings.recorded (env : Surroundings W) :
    Surroundings (W × List (Asked Action.Reply)) where
  begin_ w time a := (((env.begin_ w.1 time a).1, w.2), (env.begin_ w.1 time a).2)
  finish w time a :=
    ((env.finish w.1 time a).1,
      ((env.finish w.1 time a).2, w.2 ++ [⟨a, (env.finish w.1 time a).1⟩]))

namespace Surroundings

/-- A program that runs alone makes a history of itself, and this is written down. -/
theorem runAlone_reaches (env : Surroundings W) (p : Work α) (w : W × List (Asked Action.Reply))
    (time : Nat) :
    ∃ past rest, p.Reaches past rest ∧ (env.recorded.runAlone p w time).2.1.2 = w.2 ++ past ∧
      ∀ a, (env.recorded.runAlone p w time).1 = some a → rest = .done a := by
  induction p generalizing w time with
  | done a =>
      refine ⟨[], .done a, .here _, by simp [runAlone], ?_⟩
      intro a' ha'
      rw [← Option.some.inj ha']
  | ask q k ih =>
      unfold runAlone
      have hlog : (env.recorded.begin_ w time q).1.2 = w.2 := rfl
      generalize env.recorded.begin_ w time q = begun at hlog
      obtain ⟨w₁, _ | delay⟩ := begun
      · exact ⟨[], .ask q k, .here _, by simpa using hlog, nofun⟩
      · obtain ⟨past, rest, hreach, hpast, hend⟩ := ih
          (env.recorded.finish w₁ (time + delay) q).1
          (env.recorded.finish w₁ (time + delay) q).2 (time + delay)
        refine ⟨_, rest, .ask q k _ hreach, ?_, hend⟩
        rw [hpast, ← hlog]
        simp [recorded]

/-- A notice is always taken, sooner or later. -/
def Heeds (env : Surroundings W) : Prop :=
  ∀ w time n, (env.begin_ w time (.notice n)).2 ≠ none

/-- A program of notices comes to its end where they are taken. -/
theorem Heeds.runAlone_isSome (h : env.Heeds) {p : Work α}
    (hp : Agent.Tells p) (w : W) (time : Nat) :
    ((env.runAlone p w time).1).isSome := by
  induction hp generalizing w time with
  | done a => rfl
  | ask hq _ ih =>
      obtain ⟨n, rfl⟩ := hq
      unfold runAlone
      have htaken := h w time n
      generalize env.begin_ w time (.notice n) = begun at htaken
      obtain ⟨w₁, _ | delay⟩ := begun
      · exact absurd rfl htaken
      · exact ih _ _ _

theorem Heeds.recorded (h : env.Heeds) : env.recorded.Heeds := fun w => h w.1

end Surroundings

/-- A loop that is doing this has left of its turn what has the property. -/
def Activity.Stands (R : Work LoopState → Prop) : Activity → Prop
  | .waiting s | .ended (some s) => R (.done s)
  | .working a k => R (.ask a k)
  | .ended none => ∃ rest, R rest

theorem Activity.stands_ofWork {R : Work LoopState → Prop} {p : Work LoopState} (h : R p) :
    (ofWork p).Stands R := by
  cases p <;> exact h

theorem Activity.Stands.exists {R : Work LoopState → Prop} {a : Activity} (h : a.Stands R) :
    ∃ rest, R rest := by
  match a, h with
  | .waiting _, h | .working _ _, h | .ended (some _), h => exact ⟨_, h⟩
  | .ended none, h => exact h

/-- A loop that has ended. -/
def Activity.IsEnded : Activity → Prop
  | .ended _ => True
  | _ => False

namespace Schedule

section Proceed

variable {s : Schedule (W × List (Asked Action.Reply))} {kept : Unreported} {kind : LoopKind}
  {past log : List (Asked Action.Reply)} {activity : Activity} {delay : Option Nat}
  {w : W × List (Asked Action.Reply)} {p : Work LoopState}

/-- What a loop does next follows its history, and this was written down. It only ends when it is
told to. -/
def Proceeds (s : Schedule (W × List (Asked Action.Reply))) (kept : Unreported) (kind : LoopKind)
    (past log : List (Asked Action.Reply))
    (result : Activity × Option Nat × W × List (Asked Action.Reply)) : Prop :=
  ∃ more, result.2.2.2 = log ++ more ∧
    result.1.Stands (LoopRun s.hostId s.settings kept kind (past ++ more)) ∧
    (result.1.IsEnded → s.stopping = true)

theorem Proceeds.here (hstands : activity.Stands (LoopRun s.hostId s.settings kept kind past))
    (hlog : w.2 = log) (hended : activity.IsEnded → s.stopping = true) :
    Proceeds s kept kind past log (activity, delay, w) :=
  ⟨[], by simpa using hlog, by simpa using hstands, hended⟩

/-- A loop runs on until it has to wait. -/
theorem proceed_proceeds (henv : s.env = env.recorded)
    (h : LoopRun s.hostId s.settings kept kind past p) (fuel : Nat)
    (w : W × List (Asked Action.Reply)) :
    Proceeds s kept kind past w.2 (s.proceed fuel p w) := by
  have hbegin : ∀ w a, (s.env.begin_ w s.time a).1.2 = w.2 := fun _ _ => henv ▸ rfl
  have hfinish : ∀ w a, (s.env.finish w s.time a).2.2 =
      w.2 ++ [⟨a, (s.env.finish w s.time a).1⟩] := fun _ _ => henv ▸ rfl
  induction fuel generalizing past p w with
  | zero => exact .here (Activity.stands_ofWork h) rfl (by cases p <;> exact False.elim)
  | succ fuel ih =>
      -- After an action that takes no time the loop runs on.
      have hnext : ∀ (a : Action) (f : a.Reply → Work LoopState) w₁, w₁.2 = w.2 →
          (∀ r, LoopRun s.hostId s.settings kept kind (past ++ [⟨a, r⟩]) (f r)) →
          Proceeds s kept kind past w.2 (s.proceed fuel (f (s.env.finish w₁ s.time a).1)
            (s.env.finish w₁ s.time a).2) := by
        intro a f w₁ hw₁ hf
        obtain ⟨more, hlog, hstands, hended⟩ :=
          ih (hf (s.env.finish w₁ s.time a).1) (s.env.finish w₁ s.time a).2
        refine ⟨⟨a, (s.env.finish w₁ s.time a).1⟩ :: more, ?_, by simpa using hstands, hended⟩
        rw [hlog, hfinish, hw₁, List.append_assoc, List.singleton_append]
      cases p with
      | done state =>
          by_cases hstop : s.stopping = true
          · simp only [proceed, hstop, if_true]
            exact .here h rfl fun _ => hstop
          · simp only [proceed, hstop]
            have hlog := hbegin w state.wait
            generalize s.env.begin_ w s.time state.wait = begun at hlog
            obtain ⟨w₁, _ | _ | delay⟩ := begun
            · exact .here h hlog False.elim
            · exact hnext state.wait _ w₁ hlog h.wake
            · exact .here h hlog False.elim
      | ask a k =>
          simp only [proceed]
          have hlog := hbegin w a
          generalize s.env.begin_ w s.time a = begun at hlog
          obtain ⟨w₁, _ | _ | delay⟩ := begun
          · exact .here h hlog False.elim
          · exact hnext a k w₁ hlog fun r => h.extend (.ask a k r (.here _))
          · exact .here h hlog False.elim

end Proceed

theorem first?_mem {strands : List Strand} {strand : Strand} (h : first? strands = some strand) :
    strand ∈ strands := by
  induction strands generalizing strand with
  | nil => cases h
  | cons a rest ih =>
      unfold first? at h
      split at h
      · split at h
        · obtain rfl := Option.some.inj h
          exact List.mem_cons_self
        · cases h
      · rename_i b hb
        split at h
        · obtain rfl := Option.some.inj h
          exact List.mem_cons_self
        · obtain rfl := Option.some.inj h
          exact List.mem_cons_of_mem _ (ih hb)

/-! ## The invariant -/

/-- The strands are loops of some kinds on a host. Each stands where it has come to in a trace, and
what was written down since the start is the trace; `told` happened beside the loops. -/
structure Follows (env : Surroundings W) (hostId : String) (settings : AgentSettings)
    (start told : List (Asked Action.Reply)) (kinds : List LoopKind)
    (s : Schedule (W × List (Asked Action.Reply))) (hs : Trace) : Prop where
  env_eq : s.env = env.recorded
  hostId_eq : s.hostId = hostId
  settings_eq : s.settings = settings
  log : s.world.2 = start ++ merged hs
  beside : ownHistory none hs = told
  kinds_perm : (s.strands.map Strand.kind).Perm kinds
  orders : (s.strands.map Strand.order).Nodup
  fresh : ∀ strand ∈ s.strands, strand.order < s.asked
  stands : ∀ strand ∈ s.strands, strand.activity.Stands
    (LoopRun s.hostId s.settings ∅ strand.kind (ownHistory (some strand.kind) hs))
  ended : ∀ strand ∈ s.strands, strand.activity.IsEnded → s.stopping = true

namespace Follows

variable {s : Schedule (W × List (Asked Action.Reply))} {hostId : String}
  {settings : AgentSettings} {start told past : List (Asked Action.Reply)} {kinds : List LoopKind}
  {kinds' : List LoopKind} {kind : LoopKind} {hs : Trace} {others : List Strand}
  {p : Work LoopState} {w : W × List (Asked Action.Reply)}

/-- A loop goes on beside the others. -/
theorem continued (h : Follows env hostId settings start told kinds s hs)
    (hothers : others.Sublist s.strands) (hkind : kind ∉ others.map Strand.kind)
    (hkinds : (others.map Strand.kind ++ [kind]).Perm kinds')
    (hlog : w.2 = s.world.2 ++ past)
    (hrun : LoopRun s.hostId s.settings ∅ kind (ownHistory (some kind) hs ++ past) p) :
    ∃ more, Follows env hostId settings start told kinds' (s.continue_ others kind p w)
      (hs ++ only (some kind) more) := by
  obtain ⟨more, hmore, hstands, hended⟩ := proceed_proceeds h.env_eq hrun patience w
  refine ⟨past ++ more, ?_⟩
  have hown : ownHistory (some kind) (hs ++ only (some kind) (past ++ more)) =
      ownHistory (some kind) hs ++ past ++ more := by
    rw [ownHistory_append, Agent.ownHistory_only_self, List.append_assoc]
  refine
    { env_eq := h.env_eq
      hostId_eq := h.hostId_eq
      settings_eq := h.settings_eq
      log := ?_
      beside := ?_
      kinds_perm := by simpa [continue_] using hkinds
      orders := ?_
      fresh := ?_
      stands := ?_
      ended := ?_ }
  · rw [Agent.merged_append, Agent.merged_only, ← List.append_assoc, ← h.log, ← List.append_assoc,
      ← hlog]
    exact hmore
  · rw [ownHistory_append, Agent.ownHistory_only_of_ne (by simp), List.append_nil]
    exact h.beside
  · have hfresh : s.asked ∉ others.map Strand.order := by
      intro hmem
      obtain ⟨strand, hstrand, heq⟩ := List.mem_map.1 hmem
      exact absurd (h.fresh strand (hothers.subset hstrand)) (by omega)
    simpa [continue_, List.nodup_append] using
      ⟨h.orders.sublist (hothers.map _), fun strand hstrand heq =>
        hfresh (List.mem_map.2 ⟨strand, hstrand, heq⟩)⟩
  · intro strand hstrand
    rcases List.mem_append.1 hstrand with hstrand | hstrand
    · exact Nat.lt_succ_of_lt (h.fresh strand (hothers.subset hstrand))
    · rw [List.mem_singleton.1 hstrand]
      exact Nat.lt_succ_self _
  · intro strand hstrand
    rcases List.mem_append.1 hstrand with hstrand | hstrand
    · have hne : (some kind : Agent.Party) ≠ some strand.kind := by
        intro heq
        exact hkind (List.mem_map.2 ⟨strand, hstrand, (Option.some.inj heq).symm⟩)
      rw [ownHistory_append, Agent.ownHistory_only_of_ne hne, List.append_nil]
      exact h.stands strand (hothers.subset hstrand)
    · rw [List.mem_singleton.1 hstrand]
      show Activity.Stands _ (proceed s patience p w).1
      rw [hown]
      exact hstands
  · intro strand hstrand
    rcases List.mem_append.1 hstrand with hstrand | hstrand
    · exact h.ended strand (hothers.subset hstrand)
    · rw [List.mem_singleton.1 hstrand]
      exact hended

/-- The invariant says nothing about time. -/
theorem at_time (h : Follows env hostId settings start told kinds s hs) (time : Nat) :
    Follows env hostId settings start told kinds { s with time } hs :=
  ⟨h.env_eq, h.hostId_eq, h.settings_eq, h.log, h.beside, h.kinds_perm, h.orders, h.fresh, h.stands,
    h.ended⟩

/-- Strands may change as long as each is a loop that was there before and stands where it stood. -/
theorem restrand (h : Follows env hostId settings start told kinds s hs) {strands : List Strand}
    {stopping : Bool} (hperm : (strands.map fun t => (t.kind, t.order)).Perm
      (s.strands.map fun t => (t.kind, t.order)))
    (hstands : ∀ t ∈ strands, ∃ t' ∈ s.strands, t'.order = t.order ∧ t'.kind = t.kind ∧
      ∀ R, t'.activity.Stands R → t.activity.Stands R)
    (hended : ∀ t ∈ strands, t.activity.IsEnded → stopping = true) :
    Follows env hostId settings start told kinds { s with strands, stopping } hs where
  env_eq := h.env_eq
  hostId_eq := h.hostId_eq
  settings_eq := h.settings_eq
  log := h.log
  beside := h.beside
  kinds_perm := by
    have hkinds := hperm.map Prod.fst
    simp only [List.map_map, Function.comp_def] at hkinds
    exact hkinds.trans h.kinds_perm
  orders := by
    have horders := hperm.map Prod.snd
    simp only [List.map_map, Function.comp_def] at horders
    exact horders.nodup_iff.2 h.orders
  fresh := by
    intro t ht
    obtain ⟨t', ht', horder, -⟩ := hstands t ht
    exact horder ▸ h.fresh t' ht'
  stands := by
    intro t ht
    obtain ⟨t', ht', -, hkind, hkeep⟩ := hstands t ht
    exact hkeep _ (hkind ▸ h.stands t' ht')
  ended := hended

/-- Strands are told apart by when they asked. -/
theorem others_eq (h : Follows env hostId settings start told kinds s hs)
    {before after : List Strand} {strand : Strand}
    (hsplit : s.strands = before ++ strand :: after) :
    s.strands.filter (fun t => t.order != strand.order) = before ++ after := by
  have horders := h.orders
  rw [hsplit, List.map_append, List.map_cons, List.nodup_middle, List.nodup_cons] at horders
  have hne : ∀ t ∈ before ++ after, (t.order != strand.order) = true := by
    intro t ht
    rw [bne_iff_ne]
    intro heq
    exact horders.1 (by
      rw [← List.map_append]
      exact List.mem_map.2 ⟨t, ht, heq⟩)
  rw [hsplit, List.filter_append, List.filter_cons_of_neg (by simp), ← List.filter_append]
  exact List.filter_eq_self.2 hne

/-- The other strands are loops of the other kinds. -/
theorem others_kinds (h : Follows env hostId settings start told kinds s hs) (hkinds : kinds.Nodup)
    {before after : List Strand} {strand : Strand}
    (hsplit : s.strands = before ++ strand :: after) :
    ((before ++ after).map Strand.kind ++ [strand.kind]).Perm kinds ∧
      strand.kind ∉ (before ++ after).map Strand.kind := by
  have hperm : ((before ++ after).map Strand.kind ++ [strand.kind]).Perm kinds := by
    refine List.Perm.trans ?_ h.kinds_perm
    rw [hsplit, List.map_append, List.map_append, List.map_cons, List.append_assoc]
    exact List.Perm.append_left _ (List.perm_append_singleton _ _)
  refine ⟨hperm, ?_⟩
  have hnodup := hperm.nodup_iff.2 hkinds
  rw [List.nodup_append] at hnodup
  intro hmem
  exact hnodup.2.2 _ hmem _ List.mem_cons_self rfl

/-- The answer for a loop is there, and it goes on. -/
theorem wakeUp (h : Follows env hostId settings start told kinds s hs) (hkinds : kinds.Nodup)
    {strand : Strand} (hstrand : strand ∈ s.strands) :
    ∃ more, Follows env hostId settings start told kinds (s.wakeUp strand) (hs ++ more) := by
  obtain ⟨before, after, hsplit⟩ := List.append_of_mem hstrand
  obtain ⟨hperm, hkind⟩ := h.others_kinds hkinds hsplit
  have hothers : (before ++ after).Sublist s.strands := by
    rw [hsplit]
    exact (List.Sublist.refl before).append (List.sublist_cons_self strand after)
  have hfinish : ∀ a, (s.env.finish s.world s.time a).2.2 =
      s.world.2 ++ [⟨a, (s.env.finish s.world s.time a).1⟩] := fun _ => h.env_eq ▸ rfl
  have hstands := h.stands strand hstrand
  unfold Schedule.wakeUp
  rw [h.others_eq hsplit]
  match hactivity : strand.activity with
  | .waiting state =>
      rw [hactivity] at hstands
      obtain ⟨more, hmore⟩ := h.continued hothers hkind hperm (hfinish state.wait)
        (LoopRun.wake hstands _)
      exact ⟨_, hmore⟩
  | .working a k =>
      rw [hactivity] at hstands
      obtain ⟨more, hmore⟩ := h.continued hothers hkind hperm (hfinish a)
        (LoopRun.extend hstands (.ask a k _ (.here _)))
      exact ⟨_, hmore⟩
  | .ended last =>
      refine ⟨[], ?_⟩
      rw [List.append_nil]
      refine h.restrand ?_ ?_ ?_
      · rw [hsplit, List.append_assoc, List.map_append, List.map_append, List.map_append,
          List.map_cons]
        exact List.Perm.append_left _ (List.perm_append_singleton _ _)
      · intro t ht
        rcases List.mem_append.1 ht with ht | ht
        · exact ⟨t, hothers.subset ht, rfl, rfl, fun _ hR => hR⟩
        · rw [List.mem_singleton.1 ht]
          exact ⟨strand, hstrand, rfl, rfl, fun _ hR => hactivity ▸ hR⟩
      · intro t ht hend
        rcases List.mem_append.1 ht with ht | ht
        · exact h.ended t (hothers.subset ht) hend
        · exact h.ended strand hstrand (by rw [hactivity]; trivial)

/-- Running on keeps the invariant. -/
theorem advance (h : Follows env hostId settings start told kinds s hs) (hkinds : kinds.Nodup)
    (enough : Schedule (W × List (Asked Action.Reply)) → Bool) (limit : Option Nat) (fuel : Nat) :
    ∃ more, Follows env hostId settings start told kinds (Schedule.advance enough limit fuel s)
      (hs ++ more) := by
  induction fuel generalizing s hs with
  | zero => exact ⟨[], by rwa [List.append_nil]⟩
  | succ fuel ih =>
      have hhere : ∃ more, Follows env hostId settings start told kinds s (hs ++ more) :=
        ⟨[], by rwa [List.append_nil]⟩
      unfold Schedule.advance
      split
      · exact hhere
      · rename_i strand hfirst
        split
        · exact hhere
        · rename_i wake _
          split
          · exact hhere
          · obtain ⟨first, hwoken⟩ := (h.at_time wake).wakeUp hkinds (first?_mem hfirst)
            obtain ⟨second, hend⟩ := ih hwoken
            exact ⟨first ++ second, by rwa [← List.append_assoc]⟩

/-- Told to stop, loops that wait end, and so does work that is given up. -/
theorem stop (h : Follows env hostId settings start told kinds s hs) :
    Follows env hostId settings start told kinds s.stop hs := by
  refine h.restrand (.of_eq ?_) ?_ fun _ _ _ => rfl
  · rw [List.map_map]
    refine List.map_congr_left fun t _ => ?_
    dsimp only [Function.comp_def]
    split
    · rfl
    · split <;> rfl
    · rfl
  · intro t ht
    obtain ⟨t', ht', rfl⟩ := List.mem_map.1 ht
    refine ⟨t', ht', ?_⟩
    split
    · rename_i state hactivity
      exact ⟨rfl, rfl, fun R hR => by rwa [hactivity] at hR⟩
    · rename_i a k hactivity
      split
      · exact ⟨rfl, rfl, fun R hR => ⟨_, by rwa [hactivity] at hR⟩⟩
      · exact ⟨rfl, rfl, fun _ hR => hR⟩
    · exact ⟨rfl, rfl, fun _ hR => hR⟩

/-- A loop begins. -/
theorem spawn (h : Follows env hostId settings start told kinds s hs) (hkind : kind ∉ kinds)
    (habsent : ownHistory (some kind) hs = []) :
    ∃ more, Follows env hostId settings start told (kinds ++ [kind]) (s.spawn ∅ kind)
      (hs ++ only (some kind) more) := by
  have hbegun : LoopRun s.hostId s.settings ∅ kind (ownHistory (some kind) hs ++ [])
      (LoopState.start ∅ kind) := by
    rw [habsent]
    exact .begun (.here _)
  exact h.continued (List.Sublist.refl _) (fun hmem => hkind (h.kinds_perm.mem_iff.1 hmem))
    (h.kinds_perm.append_right _) (List.append_nil _).symm hbegun

/-- Loops begin, one after the other. -/
theorem spawnAll (todo : List LoopKind) (h : Follows env hostId settings start told kinds s hs)
    (hkinds : (kinds ++ todo).Nodup) (habsent : ∀ kind ∈ todo, ownHistory (some kind) hs = []) :
    ∃ more, Follows env hostId settings start told (kinds ++ todo)
      (todo.foldl (Schedule.spawn · ∅) s) (hs ++ more) := by
  induction todo generalizing kinds s hs with
  | nil => exact ⟨[], by simpa using h⟩
  | cons kind todo ih =>
      obtain ⟨hnew, hrest⟩ := List.nodup_cons.1 (List.nodup_middle.1 hkinds)
      obtain ⟨first, hfirst⟩ := h.spawn (fun hmem => hnew (List.mem_append_left _ hmem))
        (habsent kind List.mem_cons_self)
      have hlater : ∀ other ∈ todo,
          ownHistory (some other) (hs ++ only (some kind) first) = [] := by
        intro other hother
        have hne : (some kind : Agent.Party) ≠ some other := by
          intro heq
          exact hnew (List.mem_append_right _ (Option.some.inj heq ▸ hother))
        rw [ownHistory_append, Agent.ownHistory_only_of_ne hne, List.append_nil]
        exact habsent other (List.mem_cons_of_mem _ hother)
      obtain ⟨second, hsecond⟩ := ih hfirst (by simpa using hkinds) hlater
      exact ⟨only (some kind) first ++ second, by simpa using hsecond⟩

/-- A program of notices is carried out beside the loops. -/
theorem aside (h : Follows env hostId settings start told kinds s hs) (hheeds : env.Heeds)
    {q : Work Unit} (hq : Agent.Tells q) :
    ∃ past, q.Yields past () ∧
      Follows env hostId settings start (told ++ past) kinds (s.aside q)
        (hs ++ only none past) := by
  obtain ⟨past, rest, hreach, hlog, hend⟩ :=
    env.runAlone_reaches q s.world s.time
  obtain ⟨_, hdone⟩ :=
    Option.isSome_iff_exists.1 (hheeds.recorded.runAlone_isSome hq s.world s.time)
  obtain rfl := hend _ hdone
  refine ⟨past, hreach, ?_⟩
  exact
    { env_eq := h.env_eq
      hostId_eq := h.hostId_eq
      settings_eq := h.settings_eq
      log := by
        rw [Agent.merged_append, Agent.merged_only, ← List.append_assoc, ← h.log, ← hlog,
          ← h.env_eq]
        rfl
      beside := by rw [ownHistory_append, Agent.ownHistory_only_self, h.beside]
      kinds_perm := h.kinds_perm
      orders := h.orders
      fresh := h.fresh
      stands := by
        intro strand hstrand
        rw [ownHistory_append, Agent.ownHistory_only_of_ne (by simp), List.append_nil]
        exact h.stands strand hstrand
      ended := h.ended }

/-- Every loop has its strand. -/
theorem exists_strand (h : Follows env hostId settings start told Agent.loops s hs)
    (kind : LoopKind) : ∃ strand ∈ s.strands, strand.kind = kind := by
  have hmem : kind ∈ Agent.loops := by cases kind <;> decide
  obtain ⟨strand, hstrand, hkind⟩ := List.mem_map.1 (h.kinds_perm.mem_iff.2 hmem)
  exact ⟨strand, hstrand, hkind⟩

/-- The trace is one of an agent with a registered host. -/
theorem running {host : HostRecord} {rest : Work Unit}
    (h : Follows env host.id settings start told Agent.loops s hs)
    (hbeside : (Agent.supervise host).Reaches told rest) :
    Agent.Running settings host hs rest where
  beside := h.beside ▸ hbeside
  loops := by
    intro kind
    obtain ⟨strand, hstrand, rfl⟩ := h.exists_strand kind
    have hstands := h.stands strand hstrand
    rw [h.hostId_eq, h.settings_eq] at hstands
    exact hstands.exists

end Follows

/-! ## The agent in virtual time -/

variable {settings : AgentSettings} {host : HostRecord}

open Agent (announce supervise)

theorem begun_follows (hheeds : env.Heeds) (settings : AgentSettings) (host : HostRecord)
    (w : W × List (Asked Action.Reply)) (time : Nat) :
    ∃ told hs, announce.Yields told () ∧
      Follows env host.id settings w.2 told Agent.loops
        (begun env.recorded host settings w time) hs := by
  have hempty : Follows env host.id settings w.2 [] []
      (Schedule.empty env.recorded host.id settings w time) [] :=
    { env_eq := rfl
      hostId_eq := rfl
      settings_eq := rfl
      log := (List.append_nil _).symm
      beside := rfl
      kinds_perm := .nil
      orders := .nil
      fresh := by simp [Schedule.empty]
      stands := by simp [Schedule.empty]
      ended := by simp [Schedule.empty] }
  obtain ⟨told, htold, hannounced⟩ := hempty.aside hheeds Agent.announce_tells
  have habsent : ∀ kind ∈ Agent.loops, ownHistory (some kind) (only none told) = [] := by
    intro kind _
    exact Agent.ownHistory_only_of_ne (by simp) told
  obtain ⟨more, hbegun⟩ := hannounced.spawnAll Agent.loops (by decide) habsent
  exact ⟨told, _, htold, hbegun⟩

/-- At every point of a run in virtual time, each loop stands where one of its runs has come to. -/
theorem advance_follows (hheeds : env.Heeds) (settings : AgentSettings) (host : HostRecord)
    (w : W × List (Asked Action.Reply)) (time : Nat)
    (enough : Schedule (W × List (Asked Action.Reply)) → Bool) (limit : Option Nat) (fuel : Nat) :
    ∃ told hs, announce.Yields told () ∧
      Follows env host.id settings w.2 told Agent.loops
        (advance enough limit fuel (begun env.recorded host settings w time)) hs := by
  obtain ⟨told, hs, htold, hbegun⟩ := begun_follows hheeds settings host w time
  obtain ⟨more, hadvanced⟩ := hbegun.advance (by decide) enough limit fuel
  exact ⟨told, _, htold, hadvanced⟩

/-- Nothing but being told to makes an agent stop. -/
theorem advance_stopping (s : Schedule W) (enough : Schedule W → Bool) (limit : Option Nat)
    (fuel : Nat) : (advance enough limit fuel s).stopping = s.stopping := by
  induction fuel generalizing s with
  | zero => rfl
  | succ fuel ih =>
      have hwoken : ∀ (s : Schedule W) (strand : Strand),
          (s.wakeUp strand).stopping = s.stopping := by
        intro s strand
        unfold wakeUp
        split <;> rfl
      unfold advance
      split
      · rfl
      · split
        · rfl
        · split
          · rfl
          · rw [ih, hwoken]

theorem begun_stopping (env : Surroundings W) (host : HostRecord) (settings : AgentSettings)
    (world : W) (time : Nat) : (begun env host settings world time).stopping = false := by
  have hspawn : ∀ (kinds : List LoopKind) (s : Schedule W),
      (kinds.foldl (Schedule.spawn · ∅) s).stopping = s.stopping := by
    intro kinds
    induction kinds with
    | nil => exact fun _ => rfl
    | cons kind kinds ih => exact fun s => ih (s.spawn ∅ kind)
  exact hspawn _ _

/-- A loop does not end before the agent is told to stop. -/
theorem advance_endures (hheeds : env.Heeds) (settings : AgentSettings) (host : HostRecord)
    (w : W × List (Asked Action.Reply)) (time : Nat)
    (enough : Schedule (W × List (Asked Action.Reply)) → Bool) (limit : Option Nat) (fuel : Nat)
    (kind : LoopKind) :
    ∃ strand ∈ (advance enough limit fuel (begun env.recorded host settings w time)).strands,
      strand.kind = kind ∧ ¬ strand.activity.IsEnded := by
  obtain ⟨_, _, _, hrunning⟩ := advance_follows hheeds settings host w time enough limit fuel
  obtain ⟨strand, hstrand, hkind⟩ := hrunning.exists_strand kind
  refine ⟨strand, hstrand, hkind, ?_⟩
  intro hended
  have hstopping := hrunning.ended strand hstrand hended
  rw [advance_stopping, begun_stopping] at hstopping
  exact Bool.false_ne_true hstopping

/-- An agent that starts alone, runs for any time and is stopped makes a run that has ended. -/
theorem shutdown_run (hheeds : env.Heeds) {detected : Option IpAddress} {w : W}
    {w' : W × List (Asked Action.Reply)} {time time' : Nat}
    (hstart : env.recorded.runAlone (Agent.startup settings detected) (w, []) time =
      (some (.ok host), w', time'))
    (enough : Schedule (W × List (Asked Action.Reply)) → Bool) (limit : Option Nat) (fuel : Nat) :
    ∃ hs, Agent.Run settings detected hs (some (.ok ())) ∧
      merged hs = (shutdown (advance enough limit fuel (begun env.recorded host settings w' time'))
        host).world.2 := by
  obtain ⟨past, rest, hreach, hlog, hend⟩ :=
    env.runAlone_reaches (Agent.startup settings detected) (w, []) time
  rw [hstart] at hlog hend
  obtain rfl := hend _ rfl
  obtain ⟨announced, hs₁, hannounced, hrunning⟩ :=
    advance_follows hheeds settings host w' time' enough limit fuel
  obtain ⟨closed, hclosed, hstopping⟩ := hrunning.aside hheeds Agent.closing_tells
  obtain ⟨joined, hjoined⟩ := hstopping.stop.advance (by decide) (fun _ => false) none patience
  obtain ⟨parted, hparted, hended⟩ := hjoined.aside hheeds (Agent.farewell_tells host)
  have hbeside : (supervise host).Yields (announced ++ (closed ++ parted)) () :=
    Program.reaches_bind hannounced (Program.reaches_bind hclosed hparted)
  refine ⟨_, .ended hreach (hended.running (by rwa [List.append_assoc])), ?_⟩
  have hlast := hended.log
  rw [show w'.2 = past by simpa using hlog] at hlast
  rw [Agent.merged_append, Agent.merged_only]
  exact hlast.symm

end Schedule

end HostAgent
