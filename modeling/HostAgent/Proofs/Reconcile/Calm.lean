import HostAgent.Proofs.Central.Line
import HostAgent.Proofs.Central.Steps
import HostAgent.Proofs.Reconcile.Fleet

/-!
# Calm surroundings

The containers stay as they are, the runtime says what is true and does not
fail, and the central server keeps its contract. In such surroundings a program
of the agent gives a value and leaves something behind with the server. All else
that it asks may be replied to in any way, such as the time.

## Main results

* `Calm.Brings.bind`: what a sequence brings about.
* `Calm.central_brings`: a call does what it does on the line to the server.
* `Reconcile.syncOne_brings`: syncing a container does what the server in memory does.
-/

namespace HostAgent

open Work (engine central)

/-- The containers stay as they are. Whatever else is asked, the rest replies as it likes. -/
structure Calm (ρ : Type) where
  fleet : Fleet
  refs : List ContainerRef
  listed : fleet.Tells (.list true) (.ok refs)
  rest : ρ → (a : Action) → a.Reply × ρ

namespace Calm

variable {ρ α β : Type} {session : CentralSession} {handles : ContainerRequest → Prop}
  {srv : CentralServer session.client handles}

def inspect (c : Calm ρ) (id : String) : Except EngineError ContainerDetail :=
  match c.fleet.containers.get? id with
  | some d => .ok d
  | none => .error (.notFound id)

def answer (c : Calm ρ) (p : Line srv × ρ) : (a : Action) → a.Reply × (Line srv × ρ)
  | .central call =>
    ((p.1.run (session.exchange call)).1, (p.1.run (session.exchange call)).2, p.2)
  | .engine (.list true) => (.ok c.refs, p)
  | .engine (.inspect id) => (c.inspect id, p)
  | a => ((c.rest p.2 a).1, p.1, (c.rest p.2 a).2)

/-- A program gives a value, and this is true of the server afterwards. -/
def Brings (c : Calm ρ) (p : Line srv × ρ) (w : Work α) (a : α) (After : CentralState → Prop) :
    Prop :=
  Program.Brings c.answer w p a fun p' => p'.1.Uncached ∧ After p'.1.central

variable {c : Calm ρ} {p : Line srv × ρ} {After After' : CentralState → Prop}

theorem Brings.bind {w : Work α} {f : α → Work β} {a : α} {b : β} (hw : c.Brings p w a After)
    (hf : ∀ p' : Line srv × ρ, p'.1.Uncached → After p'.1.central → c.Brings p' (f a) b After') :
    c.Brings p (w >>= f) b After' := by
  refine Program.Brings.bind hw ?_
  rintro p' ⟨hcache, hafter⟩
  exact hf p' hcache hafter

theorem pure_brings (hcache : p.1.Uncached) (h : After p.1.central) (a : α) :
    c.Brings p (pure a) a After :=
  ⟨p, rfl, hcache, h⟩

/-- A call succeeds as it does on the line. -/
theorem central_brings {call : CentralCall} {a : call.Result} {s : CentralState}
    (h : p.1.Brings (session.exchange call) a s) :
    c.Brings p (central call) (.ok a) fun s' => s' = s := by
  obtain ⟨l', hrun, hcache, hcentral⟩ := h
  have hline : p.1.run (session.exchange call) = (.ok a, l') := hrun
  refine ⟨(l', p.2), ?_, hcache, hcentral⟩
  show ((p.1.run (session.exchange call)).1, (p.1.run (session.exchange call)).2, p.2) = _
  rw [hline]

theorem list_brings (hcache : p.1.Uncached) :
    c.Brings p (engine (.list true)) (.ok c.refs) fun s => s = p.1.central :=
  ⟨p, rfl, hcache, rfl⟩

theorem inspect_brings (hcache : p.1.Uncached) {id : String} {d : ContainerDetail}
    (hd : c.fleet.containers.get? id = some d) :
    c.Brings p (engine (.inspect id)) (.ok d) fun s => s = p.1.central := by
  refine ⟨p, ?_, hcache, rfl⟩
  show (c.inspect id, p) = _
  rw [inspect, hd]

/-- Actions that concern neither runtime nor server. -/
def IsAside : Action → Prop
  | .central _ => False
  | .engine _ => False
  | _ => True

/-- Whatever is replied to an action aside, the program goes on. -/
theorem aside_bind {a : Action} {f : a.Reply → Work β} {b : β} (ha : IsAside a)
    (hcache : p.1.Uncached)
    (hf : ∀ (reply : a.Reply) (p' : Line srv × ρ), p'.1.Uncached → p'.1.central = p.1.central →
      c.Brings p' (f reply) b After) :
    c.Brings p (Work.perform a >>= f) b After := by
  have haside : c.Brings p (Work.perform a) (c.rest p.2 a).1 fun s => s = p.1.central := by
    cases a with
    | central call => exact ha.elim
    | engine call => exact ha.elim
    | _ => exact ⟨_, rfl, hcache, rfl⟩
  exact haside.bind (hf _)

end Calm

namespace Reconcile

open Calm (aside_bind central_brings inspect_brings pure_brings)

variable {ρ : Type} {session : CentralSession} {handles : ContainerRequest → Prop}
  {srv : CentralServer session.client handles} {c : Calm ρ} {p : Line srv × ρ} {hostId : String}

/-- Syncing a container that is there does what the server in memory does. -/
theorem syncOne_brings (hcache : p.1.Uncached) {id : String} {d : ContainerDetail}
    (hd : c.fleet.containers.get? id = some d)
    (hr : ∀ r ∈ ContainerRequest.ofSync (d.record hostId), handles r) {outcome : SyncOutcome}
    {s : CentralState} (h : p.1.central.answer (.sync (d.record hostId)) = (.ok outcome, s)) :
    c.Brings p (syncOne hostId id) (.ok (.synced outcome)) fun s' => s' = s := by
  rw [syncOne_eq]
  refine (inspect_brings hcache hd).bind ?_
  intro p₁ hcache₁ hcentral₁
  rw [← hcentral₁] at h
  refine (central_brings (Line.sync_brings hcache₁ hr h)).bind ?_
  intro p₂ hcache₂ hcentral₂
  refine aside_bind ?_ hcache₂ ?_
  · trivial
  · intro _ p₃ hcache₃ hcentral₃
    refine pure_brings hcache₃ ?_ _
    exact hcentral₃.trans hcentral₂

end Reconcile

end HostAgent
