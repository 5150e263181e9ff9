import HostAgent.Engine.Call
import HostAgent.Proofs.Work.Interleaving

/-!
# Containers that come and go

The containers of a runtime while others work with them: they appear, change and
vanish at any time. An identity is given once and never again, so a container
that has vanished never comes back. What the runtime replies is true at that
moment; it may also fail.

## Main results

* `Fleet.Moves.gone`: what is gone stays gone.
* `Fleet.Moves.present_iff`: a container is there if it just appeared, or was there and did not
  vanish.
-/

namespace HostAgent

/-- The containers of a runtime by their ids, and the ids that were ever given. -/
structure Fleet where
  containers : KeyMap ContainerDetail
  given : List String
  keyed : ∀ id d, containers.get? id = some d → d.id = id
  known : ∀ id d, containers.get? id = some d → id ∈ given

inductive FleetMove
  | appear (d : ContainerDetail)
  | change (d : ContainerDetail)
  | vanish (id : String)

namespace Fleet

def Present (f : Fleet) (id : String) : Prop := ∃ d, f.containers.get? id = some d

/-- The container was there once, and is not there any more. -/
def Gone (f : Fleet) (id : String) : Prop := id ∈ f.given ∧ f.containers.get? id = none

/-- What a move leads to. Only an identity that was never given may appear. -/
def Moves (f f' : Fleet) : FleetMove → Prop
  | .appear d =>
    d.id ∉ f.given ∧ f'.containers = f.containers.insert d.id d ∧ f'.given = d.id :: f.given
  | .change d =>
    f.Present d.id ∧ f'.containers = f.containers.insert d.id d ∧ f'.given = f.given
  | .vanish id =>
    f.Present id ∧ f'.containers = f.containers.erase id ∧ f'.given = f.given

/-- What a reply says is true: a listing names each container once, and a detail is the one of the
container. -/
def Tells (f : Fleet) : (call : EngineCall) → call.Reply → Prop
  | .list true, .ok refs => (refs.map ContainerRef.id).Perm f.containers.keys
  | .inspect id, .ok d => f.containers.get? id = some d
  | _, _ => True

theorem Gone.not_present {f : Fleet} {id : String} (h : f.Gone id) : ¬ f.Present id := by
  rintro ⟨d, hd⟩
  rw [h.2] at hd
  cases hd

namespace Moves

variable {f f' : Fleet} {m : FleetMove} {id : String}

theorem present_iff (h : f.Moves f' m) :
    f'.Present id ↔ (∃ d, m = .appear d ∧ d.id = id) ∨ (f.Present id ∧ m ≠ .vanish id) := by
  cases m with
  | appear d =>
      obtain ⟨_, hcontainers, _⟩ := h
      rw [Present, hcontainers]
      by_cases hid : id = d.id
      · simp [hid]
      · simp [Present, hid, Ne.symm hid]
  | change d =>
      obtain ⟨hpresent, hcontainers, _⟩ := h
      rw [Present, hcontainers]
      by_cases hid : id = d.id
      · subst hid
        simp [hpresent]
      · simp [Present, hid]
  | vanish id' =>
      obtain ⟨_, hcontainers, _⟩ := h
      rw [Present, hcontainers]
      by_cases hid : id = id'
      · simp [hid]
      · simp [Present, hid, Ne.symm hid]

theorem gone (h : f.Moves f' m) (hgone : f.Gone id) : f'.Gone id := by
  have hgiven : id ∈ f'.given := by
    cases m with
    | appear d =>
        rw [h.2.2]
        exact List.mem_cons_of_mem _ hgone.1
    | change d =>
        rw [h.2.2]
        exact hgone.1
    | vanish id' =>
        rw [h.2.2]
        exact hgone.1
  refine ⟨hgiven, Option.eq_none_iff_forall_ne_some.2 ?_⟩
  intro d hd
  rcases h.present_iff.1 ⟨d, hd⟩ with ⟨d', rfl, rfl⟩ | ⟨hpresent, _⟩
  · exact h.1 hgone.1
  · exact hgone.not_present hpresent

theorem gone_of_vanish (h : f.Moves f' (.vanish id)) : f'.Gone id := by
  obtain ⟨⟨d, hd⟩, hcontainers, hgiven⟩ := h
  refine ⟨?_, ?_⟩
  · rw [hgiven]
    exact f.known id d hd
  · rw [hcontainers, KeyMap.get?_erase, if_pos rfl]

end Moves

/-! ## Calls of the engine -/

/-- What looking at a container finds. -/
def inspect (f : Fleet) (id : String) : Except EngineError ContainerDetail :=
  match f.containers.get? id with
  | some d => .ok d
  | none => .error (.notFound id)

/-- What an engine promises about the containers after a call. Looking at one finds what is there. A
container is created under an identity that was never given. Any other call may fail whatever the
containers are like, and leaves them alone then; but only a container that is not there is not found
when it is to be removed. -/
def Obeys (f f' : Fleet) : (call : EngineCall) → call.Reply → Prop
  | .inspect id, reply => f' = f ∧ reply = f.inspect id
  | .create _, .ok id => ∃ d, d.id = id ∧ f.Moves f' (.appear d)
  | .start id, .ok _ | .stop id _, .ok _ | .restart id _, .ok _ =>
    ∃ d, d.id = id ∧ f.Moves f' (.change d)
  | .remove id _ _, .ok _ => f.Moves f' (.vanish id)
  | .remove id _ _, .error e => f' = f ∧ (e.isNotFound = true → ¬ f.Present id)
  | _, _ => f' = f

/-! ## Small fleets -/

/-- No container is there any more. -/
def empty (given : List String) : Fleet where
  containers := ∅
  given
  keyed := by simp
  known := by simp

/-- One more container. -/
def add (f : Fleet) (d : ContainerDetail) : Fleet where
  containers := f.containers.insert d.id d
  given := d.id :: f.given
  keyed := by
    intro id d' h
    rw [KeyMap.get?_insert] at h
    split at h
    · rename_i hid
      cases h
      exact hid.symm
    · exact f.keyed id d' h
  known := by
    intro id d' h
    rw [KeyMap.get?_insert] at h
    split at h
    · rename_i hid
      exact hid ▸ List.mem_cons_self
    · exact List.mem_cons_of_mem _ (f.known id d' h)

/-- The only container there ever was. -/
def single (d : ContainerDetail) : Fleet := (empty []).add d

end Fleet

/-- A container that runs. -/
def web : ContainerDetail :=
  { id := "x", name := "web", image := "nginx:1.25", state := .onlyRunning, ports := [], env := ∅
    createdAt := none }

end HostAgent
