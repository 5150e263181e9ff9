import HostAgent.Proofs.Reconcile.Convergence

/-!
# What an event leads to

An event names an action, and the verb of that name decides what is done: the
container is looked at and synced again, or it is forgotten, or nothing happens.
In calm surroundings each of these makes of the server's state what a function
of that state says. What it does to the container of the event, what it leaves
alone, and that doing it again changes nothing, all follows from the function.

## Main results

* `EventAction.isVerb_iff`: what the verb of an action is.
* `EventAction.ofAction_eq`: what each verb means.
* `CentralState.learn_describes`: the record of a container after it was looked at.
* `handle_brings`: what handling an event makes of the server's state.
* `handle_settles`: what this says of the container of the event and of all others, and that
  handling the event again changes nothing.
-/

namespace HostAgent

/-! ## Verbs -/

namespace EventAction

/-- The verb is the text before the first colon of the action, without the blanks at its ends. -/
def IsVerb (action verb : String) : Prop :=
  ∃ head rest, action.toList = head ++ rest ∧ ':' ∉ head ∧ (∀ c ∈ rest.head?, c = ':') ∧
    ∃ front back, head = front ++ verb.toList ++ back ∧
      (∀ c ∈ front ++ back, Text.isBlank c = true) ∧
      (∀ c ∈ verb.toList.head?, Text.isBlank c = false) ∧
      ∀ c ∈ verb.toList.getLast?, Text.isBlank c = false

theorem isVerb_iff (action v : String) : IsVerb action v ↔ verb action = v := by
  have hverb : verb action = v ↔
      Text.trimBoth Text.isBlank (action.toList.takeWhile (· != ':')) = v.toList := by
    constructor
    · rintro rfl
      rw [verb, String.toList_ofList]
    · intro h
      rw [verb, h, String.ofList_toList]
  rw [hverb, Text.trimBoth_eq_iff]
  constructor
  · rintro ⟨head, rest, haction, hhead, hrest, front, back, rfl, hends⟩
    have hcut : action.toList.takeWhile (· != ':') = front ++ v.toList ++ back :=
      Text.takeWhile_eq_iff.2 ⟨rest, haction,
        fun c hc => bne_iff_ne.2 fun heq => hhead (heq ▸ hc), fun c hc => by simp [hrest c hc]⟩
    exact ⟨front, back, hcut, hends⟩
  · rintro ⟨front, back, hcut, hends⟩
    obtain ⟨rest, haction, hhead, hrest⟩ := Text.takeWhile_eq_iff.1 hcut
    refine ⟨_, rest, haction, fun hc => ?_, fun c hc => ?_, front, back, rfl, hends⟩
    · simpa using hhead ':' hc
    · simpa using hrest c hc

/-- The verbs of a container that comes up, goes down or changes. -/
def changes : List String := ["start", "restart", "unpause", "stop", "pause", "die", "kill"]

/-- The verbs of a container that is gone. -/
def ends : List String := ["destroy", "remove"]

theorem ofAction_eq (action : String) :
    ofAction action =
      if verb action = "create" then .resync true
      else if verb action ∈ changes then .resync false
      else if verb action ∈ ends then .gone
      else .ignore := by
  unfold ofAction
  split <;> simp_all [changes, ends]

variable {action : String}

theorem ofAction_of_changes (h : verb action ∈ changes) : ofAction action = .resync false := by
  have hother : ∀ v ∈ changes, v ≠ "create" := by decide
  rw [ofAction_eq, if_neg (hother _ h), if_pos h]

theorem ofAction_of_ends (h : verb action ∈ ends) : ofAction action = .gone := by
  have hother : ∀ v ∈ ends, v ≠ "create" ∧ v ∉ changes := by decide
  rw [ofAction_eq, if_neg (hother _ h).1, if_neg (hother _ h).2, if_pos h]

theorem ofAction_of_other (hcreate : verb action ≠ "create") (hchanges : verb action ∉ changes)
    (hends : verb action ∉ ends) : ofAction action = .ignore := by
  rw [ofAction_eq, if_neg hcreate, if_neg hchanges, if_neg hends]

end EventAction

/-! ## What an event makes of the server's state -/

namespace CentralState

/-- The state after a container was looked at and its record was synced, if it is there. -/
def learn (s : CentralState) (f : Fleet) (hostId id : String) : CentralState :=
  match f.containers.get? id with
  | some d => (s.answer (.sync (d.record hostId))).2
  | none => s

/-- The state after a container was forgotten. -/
def forget (s : CentralState) (id : String) : CentralState := (s.drop id).unignore id

variable {s : CentralState} {f : Fleet} {hostId id : String}

theorem learn_of_present {d : ContainerDetail} (hd : f.containers.get? id = some d) :
    Swept f hostId [id] s (s.learn f hostId id) := by
  rw [learn, hd]
  exact Swept.one hd s

theorem learn_of_absent (habsent : f.containers.get? id = none) : s.learn f hostId id = s := by
  rw [learn, habsent]

/-- Only the record of the container may change, and only if it is there and not ignored. -/
theorem learn_get? (s : CentralState) (f : Fleet) (hostId id other : String) :
    (s.learn f hostId id).records.get? other =
      if other = id ∧ id ∉ s.ignored then
        ((f.containers.get? id).map (·.record hostId)).or (s.records.get? id)
      else s.records.get? other := by
  cases hd : f.containers.get? id with
  | none =>
      rw [learn_of_absent hd]
      split
      · rename_i hsame
        rw [hsame.1]
        rfl
      · rfl
  | some d =>
      rw [(learn_of_present hd).records]
      by_cases hother : other = id
      · subst hother
        simp [hd]
      · simp [hother]

/-- The record of a container that is there describes it, unless the container is ignored. -/
theorem learn_describes {d : ContainerDetail} (hd : f.containers.get? id = some d)
    (hid : id ∉ s.ignored) :
    ∃ r, (s.learn f hostId id).records.get? id = some r ∧ r.Describes d hostId := by
  refine ⟨d.record hostId, ?_, (ContainerRecord.describes_iff _ _ _).2 rfl⟩
  rw [learn_get?, if_pos ⟨rfl, hid⟩, hd]
  rfl

theorem learn_ignored (s : CentralState) (f : Fleet) (hostId id : String) :
    (s.learn f hostId id).ignored = s.ignored := by
  cases hd : f.containers.get? id with
  | none => rw [learn_of_absent hd]
  | some d => exact (learn_of_present hd).ignored

theorem learn_tasks (s : CentralState) (f : Fleet) (hostId id : String) :
    (s.learn f hostId id).tasks = s.tasks := by
  cases hd : f.containers.get? id with
  | none => rw [learn_of_absent hd]
  | some d => exact (learn_of_present hd).tasks

theorem learn_learn (s : CentralState) (f : Fleet) (hostId id : String) :
    (s.learn f hostId id).learn f hostId id = s.learn f hostId id := by
  refine eq_of ?_ (learn_ignored ..) (learn_tasks ..)
  intro other
  rw [learn_get?, learn_ignored]
  split
  · rename_i hsame
    rw [learn_get?, learn_get?, if_pos ⟨rfl, hsame.2⟩, if_pos hsame]
    cases f.containers.get? id <;> rfl
  · rfl

theorem not_mem_unignore (s : CentralState) (id : String) : id ∉ (s.unignore id).ignored := by
  simp [unignore]

theorem unignore_of_not_mem (h : id ∉ s.ignored) : s.unignore id = s := by
  refine eq_of (fun _ => rfl) ?_ rfl
  refine List.filter_eq_self.2 ?_
  intro other hother
  exact decide_eq_true fun heq => h (heq ▸ hother)

theorem forget_forget (s : CentralState) (id : String) : (s.forget id).forget id = s.forget id := by
  refine eq_of ?_ ?_ rfl
  · intro other
    by_cases hother : other = id <;> simp [forget, drop, unignore, hother]
  · simp [forget, drop, unignore]

end CentralState

/-- What handling an event with this meaning makes of the server's state. -/
def EventAction.effect (f : Fleet) (hostId id : String) (s : CentralState) :
    EventAction → CentralState
  | .resync true => (s.unignore id).learn f hostId id
  | .resync false => s.learn f hostId id
  | .gone => s.forget id
  | .ignore => s

/-- What handling an event leaves of the server's state, by the verb of the event. -/
structure Handled (f : Fleet) (hostId id verb : String) (s s' : CentralState) : Prop where
  created : verb = "create" → id ∉ s'.ignored ∧
    s'.records.get? id = ((f.containers.get? id).map (·.record hostId)).or (s.records.get? id)
  changed : verb ∈ EventAction.changes → s'.ignored = s.ignored ∧
    s'.records.get? id =
      if id ∈ s.ignored then s.records.get? id
      else ((f.containers.get? id).map (·.record hostId)).or (s.records.get? id)
  described : verb = "create" ∨ verb ∈ EventAction.changes ∧ id ∉ s.ignored →
    ∀ d, f.containers.get? id = some d →
      ∃ r, s'.records.get? id = some r ∧ r.Describes d hostId
  ended : verb ∈ EventAction.ends → id ∉ s'.ignored ∧ s'.records.get? id = none
  other : verb ≠ "create" → verb ∉ EventAction.changes → verb ∉ EventAction.ends → s' = s
  records_of_others : ∀ id', id' ≠ id → s'.records.get? id' = s.records.get? id'
  ignored_of_others : s'.ignored.filter (· ≠ id) = s.ignored.filter (· ≠ id)
  tasks : s'.tasks = s.tasks

namespace EventAction

variable (f : Fleet) (hostId id : String) (s : CentralState)

/-- All other containers keep their records. -/
theorem effect_records (a : EventAction) {id' : String} (hne : id' ≠ id) :
    (a.effect f hostId id s).records.get? id' = s.records.get? id' := by
  cases a with
  | resync clearIgnore =>
      cases clearIgnore with
      | true =>
          show ((s.unignore id).learn f hostId id).records.get? id' = _
          rw [CentralState.learn_get?, if_neg fun h => hne h.1]
          rfl
      | false =>
          show (s.learn f hostId id).records.get? id' = _
          rw [CentralState.learn_get?, if_neg fun h => hne h.1]
  | gone => simp [effect, CentralState.forget, CentralState.drop, CentralState.unignore, hne]
  | ignore => rfl

/-- All other containers keep their ignore entries, in their order. -/
theorem effect_ignored (a : EventAction) :
    (a.effect f hostId id s).ignored.filter (· ≠ id) = s.ignored.filter (· ≠ id) := by
  have htwice : (s.unignore id).ignored.filter (· ≠ id) = s.ignored.filter (· ≠ id) := by
    simp [CentralState.unignore]
  cases a with
  | resync clearIgnore =>
      cases clearIgnore with
      | true =>
          show ((s.unignore id).learn f hostId id).ignored.filter _ = _
          rw [CentralState.learn_ignored]
          exact htwice
      | false =>
          show (s.learn f hostId id).ignored.filter _ = _
          rw [CentralState.learn_ignored]
  | gone => exact htwice
  | ignore => rfl

theorem effect_tasks (a : EventAction) : (a.effect f hostId id s).tasks = s.tasks := by
  cases a with
  | resync clearIgnore => cases clearIgnore <;> exact CentralState.learn_tasks ..
  | gone => rfl
  | ignore => rfl

theorem effect_handled (action : String) :
    Handled f hostId id (verb action) s ((ofAction action).effect f hostId id s) where
  created := by
    intro hverb
    rw [ofAction_eq, if_pos hverb]
    refine ⟨?_, ?_⟩
    · show id ∉ ((s.unignore id).learn f hostId id).ignored
      rw [CentralState.learn_ignored]
      exact s.not_mem_unignore id
    · show ((s.unignore id).learn f hostId id).records.get? id = _
      rw [CentralState.learn_get?, if_pos ⟨rfl, s.not_mem_unignore id⟩]
      rfl
  changed := by
    intro hverb
    rw [ofAction_of_changes hverb]
    refine ⟨CentralState.learn_ignored .., ?_⟩
    show (s.learn f hostId id).records.get? id = _
    rw [CentralState.learn_get?]
    by_cases hignored : id ∈ s.ignored <;> simp [hignored]
  described := by
    intro hverb d hd
    rcases hverb with hverb | ⟨hverb, hid⟩
    · rw [ofAction_eq, if_pos hverb]
      exact CentralState.learn_describes hd (s.not_mem_unignore id)
    · rw [ofAction_of_changes hverb]
      exact CentralState.learn_describes hd hid
  ended := by
    intro hverb
    rw [ofAction_of_ends hverb]
    refine ⟨(s.drop id).not_mem_unignore id, ?_⟩
    simp [effect, CentralState.forget, CentralState.drop, CentralState.unignore]
  other := by
    intro hcreate hchanges hends
    rw [ofAction_of_other hcreate hchanges hends]
    rfl
  records_of_others _ hne := effect_records f hostId id s _ hne
  ignored_of_others := effect_ignored f hostId id s _
  tasks := effect_tasks f hostId id s _

end EventAction

/-- What was brought about once is not changed again. -/
theorem EventAction.effect_effect (a : EventAction) (f : Fleet) (hostId id : String)
    (s : CentralState) :
    a.effect f hostId id (a.effect f hostId id s) = a.effect f hostId id s := by
  cases a with
  | resync clearIgnore =>
      cases clearIgnore with
      | false => exact s.learn_learn f hostId id
      | true =>
          have hout : id ∉ ((s.unignore id).learn f hostId id).ignored := by
            rw [CentralState.learn_ignored]
            exact s.not_mem_unignore id
          show (((s.unignore id).learn f hostId id).unignore id).learn f hostId id = _
          rw [CentralState.unignore_of_not_mem hout]
          exact (s.unignore id).learn_learn f hostId id
  | gone => exact s.forget_forget id
  | ignore => rfl

/-- The requests that an event with this meaning takes. -/
inductive EventAction.Asks (f : Fleet) (hostId id : String) :
    EventAction → ContainerRequest → Prop
  | clear : Asks f hostId id (.resync true) (.unignore id)
  | sync {clearIgnore : Bool} {d : ContainerDetail} {r : ContainerRequest} :
      f.containers.get? id = some d → r ∈ ContainerRequest.ofSync (d.record hostId) →
        Asks f hostId id (.resync clearIgnore) r
  | delete : Asks f hostId id .gone (.delete id)
  | unignore : Asks f hostId id .gone (.unignore id)

namespace Reconcile

open Calm (central_brings inspect_brings pure_brings)

variable {ρ : Type} {session : CentralSession} {handles : ContainerRequest → Prop}
  {srv : CentralServer session.client handles} {c : Calm ρ} {p : Line srv × ρ} {hostId : String}

/-! ## What handling an event brings about -/

/-- Syncing a container succeeds, whether it is there or not. -/
theorem syncOne_learns (hcache : p.1.Uncached) {id : String}
    (hr : ∀ d, c.fleet.containers.get? id = some d →
      ∀ r ∈ ContainerRequest.ofSync (d.record hostId), handles r) :
    ∃ result, c.Brings p (syncOne hostId id) (.ok result) fun s =>
      s = p.1.central.learn c.fleet hostId id := by
  cases hd : c.fleet.containers.get? id with
  | none =>
      refine ⟨.vanished, p, ?_, hcache, (CentralState.learn_of_absent hd).symm⟩
      rw [syncOne_eq]
      show Program.run c.answer (afterInspect hostId (c.inspect id)) p = _
      rw [Calm.inspect, hd]
      rfl
  | some d =>
      obtain ⟨outcome, houtcome, -⟩ :=
        (default : FullSyncReport).sweep_one p.1.central (d.record hostId)
      refine ⟨.synced outcome, ?_⟩
      rw [CentralState.learn, hd]
      exact syncOne_brings hcache hd (hr d hd) (Prod.ext houtcome rfl)

theorem forget_brings (hcache : p.1.Uncached) {id : String} (hdelete : handles (.delete id))
    (hunignore : handles (.unignore id)) :
    c.Brings p (forget id) (.ok ()) fun s => s = p.1.central.forget id := by
  refine (central_brings (Line.delete_brings hcache hdelete)).bind ?_
  intro p₁ hcache₁ hcentral₁
  refine (central_brings (Line.removeIgnored_brings hcache₁ hunignore)).bind ?_
  intro p₂ hcache₂ hcentral₂
  refine pure_brings hcache₂ ?_ _
  rw [hcentral₂, hcentral₁]
  rfl

/-- Handling an event succeeds, and makes of the server's state what the verb says. -/
theorem handle_brings (hcache : p.1.Uncached) (e : LifecycleEvent)
    (hserved : ∀ r, (EventAction.ofAction e.action).Asks c.fleet hostId e.containerId r →
      handles r) :
    c.Brings p (handle hostId e) (.ok ()) fun s =>
      s = (EventAction.ofAction e.action).effect c.fleet hostId e.containerId p.1.central := by
  unfold handle
  cases haction : EventAction.ofAction e.action with
  | ignore => exact ⟨p, rfl, hcache, rfl⟩
  | gone =>
      rw [haction] at hserved
      refine (forget_brings hcache (hserved _ .delete) (hserved _ .unignore)).bind ?_
      intro p₁ hcache₁ hcentral₁
      exact pure_brings hcache₁ hcentral₁ _
  | resync clearIgnore =>
      rw [haction] at hserved
      cases clearIgnore with
      | false =>
          obtain ⟨result, hsync⟩ := syncOne_learns hcache (fun d hd r hr => hserved r (.sync hd hr))
          refine hsync.bind ?_
          intro p₁ hcache₁ hcentral₁
          exact pure_brings hcache₁ hcentral₁ _
      | true =>
          refine (central_brings (Line.removeIgnored_brings hcache (hserved _ .clear))).bind ?_
          intro p₁ hcache₁ hcentral₁
          obtain ⟨result, hsync⟩ :=
            syncOne_learns hcache₁ (fun d hd r hr => hserved r (.sync hd hr))
          refine hsync.bind ?_
          intro p₂ hcache₂ hcentral₂
          rw [hcentral₁] at hcentral₂
          exact pure_brings hcache₂ hcentral₂ _

/-! ## What handling an event asks -/

/-- Forgetting a container does not ask the engine. -/
theorem forget_spares (id : String) :
    (forget id).Asking fun a => ∀ call, a ≠ .engine call := by
  refine .ask (by simp) fun _ => .ask (by simp) fun _ => .done _

/-- A container that is gone is not looked for. -/
theorem handle_spares (hostId : String) {e : LifecycleEvent}
    (haction : EventAction.ofAction e.action = .gone) :
    (handle hostId e).Asking fun a => ∀ call, a ≠ .engine call := by
  unfold handle
  rw [haction]
  exact (forget_spares e.containerId).bind fun _ => .done _

/-- The verb of an event decides what handling it makes of the container's record and ignore entry
at the server. A record that is written describes the container as it was looked at. All other
records and entries stay as they are. A container that is gone is not looked for, and an event with
another verb asks nothing at all. Handling the event again succeeds too and changes nothing. -/
theorem handle_settles (c : Calm ρ) (hostId : String) (e : LifecycleEvent) (p : Line srv × ρ)
    {verb : String} (hverb : EventAction.IsVerb e.action verb) (hcache : p.1.Uncached)
    (hserved : ∀ r, (EventAction.ofAction e.action).Asks c.fleet hostId e.containerId r →
      handles r) :
    ∃ p₁ p₂, (handle hostId e).run c.answer p = (.ok (), p₁) ∧
      Handled c.fleet hostId e.containerId verb p.1.central p₁.1.central ∧
      (verb ∈ EventAction.ends →
        ∀ x ∈ (handle hostId e).history c.answer p, ∀ call, x.question ≠ .engine call) ∧
      (verb ≠ "create" → verb ∉ EventAction.changes → verb ∉ EventAction.ends →
        (handle hostId e).history c.answer p = []) ∧
      (handle hostId e).run c.answer p₁ = (.ok (), p₂) ∧ p₂.1.central = p₁.1.central := by
  obtain rfl := (EventAction.isVerb_iff _ _).1 hverb
  obtain ⟨p₁, hfirst, hcache₁, hcentral₁⟩ := handle_brings hcache e hserved
  obtain ⟨p₂, hsecond, -, hcentral₂⟩ := handle_brings hcache₁ e hserved
  refine ⟨p₁, p₂, hfirst, ?_, ?_, ?_, hsecond, ?_⟩
  · rw [hcentral₁]
    exact EventAction.effect_handled _ _ _ _ _
  · intro hends
    have hasking := handle_spares hostId (EventAction.ofAction_of_ends hends)
    exact (hasking.of_reaches (Program.yields_run c.answer _ p)).1
  · intro hcreate hchanges hends
    unfold handle
    rw [EventAction.ofAction_of_other hcreate hchanges hends]
    rfl
  · rw [hcentral₂, hcentral₁, EventAction.effect_effect]

/-! ## A container that is created again

The container has vanished before the event is handled. Its ignore entry goes, and its record from
before stays. -/

def recreated : LifecycleEvent := { action := " create : z", containerId := "z" }

theorem recreated_verb : EventAction.IsVerb recreated.action "create" :=
  (EventAction.isVerb_iff _ _).2 (by decide +kernel)

theorem handle_settles_recreated :
    ∃ p₁ p₂, (handle "h1" recreated).run pairCalm.answer pairStart = (.ok (), p₁) ∧
      "z" ∉ p₁.1.central.ignored ∧ p₁.1.central.records.get? "z" = some oldRecord ∧
      p₁.1.central.records.get? "y" = none ∧
      (handle "h1" recreated).run pairCalm.answer p₁ = (.ok (), p₂) ∧
      p₂.1.central = p₁.1.central := by
  have haction : EventAction.ofAction recreated.action = .resync true := by decide +kernel
  have hserved : ∀ r, (EventAction.ofAction recreated.action).Asks pairCalm.fleet "h1" "z" r →
      r ∈ pairRequests := by
    rw [haction]
    intro r hr
    cases hr with
    | clear => decide
    | sync hd _ => cases hd
  obtain ⟨p₁, p₂, hfirst, hhandled, -, -, hsecond, hsame⟩ :=
    handle_settles pairCalm "h1" recreated pairStart recreated_verb rfl hserved
  obtain ⟨hignored, hrecord⟩ := hhandled.created rfl
  exact ⟨p₁, p₂, hfirst, hignored, hrecord, hhandled.records_of_others "y" (by decide), hsecond,
    hsame⟩

end Reconcile

end HostAgent
