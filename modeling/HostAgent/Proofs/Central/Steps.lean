import HostAgent.Proofs.Central.Sending
import HostAgent.Reconcile.Sync

/-!
# The agent step by step

A call to the central server takes several requests, and between two of them
other parts of the agent may come in. Here each call is replaced by the steps it
is made of, so that a program of the agent shows every single request.

## Main results

* `fine_syncOne`, `afterInspect_sends`: syncing a container inspects it first, and then sends
  nothing but requests about what was found.
* `forget_sends`, `forget_deletes`: forgetting a container begins with the deletion of its record.
-/

namespace HostAgent

/-- An action, or a step of a call to the central server. -/
inductive AgentStep
  | act (a : Action)
  | exchange (s : CentralStep)

@[reducible] def AgentStep.Reply : AgentStep → Type
  | act a => a.Reply
  | exchange s => s.Reply

namespace Work

variable {α β : Type}

/-- A call with its steps. It is opened by its equation alone, since running into the addresses of
its requests leads nowhere. -/
@[irreducible] def stepwise (session : CentralSession) (call : CentralCall) :
    Program AgentStep.Reply call.Reply :=
  (session.exchange call).run.expand fun s => .ask (AgentStep.exchange s) .done

/-- The steps of an action. -/
def steps (session : CentralSession) : (a : Action) → Program AgentStep.Reply a.Reply
  | .central call => stepwise session call
  | a => .ask (AgentStep.act a) .done

/-- A program with the steps of its calls. -/
def fine (session : CentralSession) (w : Work α) : Program AgentStep.Reply α :=
  w.expand (steps session)

theorem fine_call (session : CentralSession) (call : CentralCall) (f : call.Reply → Work α) :
    fine session (central call >>= f) =
      (stepwise session call).bind fun reply => fine session (f reply) := rfl

theorem fine_bind (session : CentralSession) (w : Work α) (f : α → Work β) :
    fine session (w >>= f) = (fine session w).bind fun a => fine session (f a) :=
  Program.expand_bind _ _ _

end Work

/-- A step that asks the engine nothing, and sends nothing but some requests about containers. -/
def AgentStep.Sends (c : CentralClient) (R : ContainerRequest → Prop) : AgentStep → Prop
  | .act (.engine _) => False
  | .act _ => True
  | .exchange s => CentralClient.Sends c R s

namespace Reconcile

open Work (fine)

variable {R : ContainerRequest → Prop} {session : CentralSession}

theorem stepwise_sends {call : CentralCall}
    (h : (session.exchange call).run.Asking (CentralClient.Sends session.client R)) :
    (Work.stepwise session call).Asking (AgentStep.Sends session.client R) := by
  rw [Work.stepwise]
  exact h.expand fun _ hs => .ask hs fun _ => .done _

/-- What is made of the outcome of a sync. -/
def afterSync : Except CentralError SyncOutcome → Work (Except SyncError SyncResult)
  | .error e => do
    Work.count .syncFailed
    return .error e
  | .ok outcome => do
    Work.count (if outcome = .ignored then .syncIgnored else .synced)
    return .ok (.synced outcome)

/-- What syncing a container does after it was inspected. -/
def afterInspect (hostId : String) :
    Except EngineError ContainerDetail → Work (Except SyncError SyncResult)
  | .error e => return if e.isNotFound then .ok .vanished else .error e
  | .ok detail => Work.central (.sync (detail.record hostId)) >>= afterSync

/-- What a full sync does when it has purged. -/
def afterPurge (hostId : String) (started : Duration) (report : FullSyncReport) :
    Work (Except SyncError FullSyncReport) := do
  let elapsed := (← Work.now).since started
  Work.count (.fullSync (.ofFloat elapsed.seconds) report.listed)
  Work.count (.purged report.purged)
  Work.log hostId (.fullSync report elapsed.millis)
  return .ok report

theorem syncOne_eq (hostId id : String) :
    syncOne hostId id = .ask (.engine (.inspect id)) (afterInspect hostId) := by
  refine congrArg (Program.ask (Action.engine (.inspect id))) (funext fun reply => ?_)
  cases reply with
  | error e => rfl
  | ok detail =>
      refine congrArg (Program.ask (Action.central (.sync (detail.record hostId)))) ?_
      refine funext fun outcome => ?_
      cases outcome <;> rfl

theorem fine_syncOne (session : CentralSession) (hostId id : String) :
    fine session (syncOne hostId id) =
      .ask (.act (.engine (.inspect id))) fun reply =>
        fine session (afterInspect hostId reply) := by
  rw [syncOne_eq]
  rfl

theorem afterSync_sends (outcome : Except CentralError SyncOutcome) :
    (fine session (afterSync outcome)).Asking (AgentStep.Sends session.client R) := by
  cases outcome with
  | error e => exact .ask trivial fun _ => .done _
  | ok outcome => exact .ask trivial fun _ => .done _

/-- Once a container was inspected, nothing is sent but requests about what was found. -/
theorem afterInspect_sends (hostId : String) (d : ContainerDetail)
    (h : ∀ r ∈ ContainerRequest.ofSync (d.record hostId), R r) :
    (fine session (afterInspect hostId (.ok d))).Asking (AgentStep.Sends session.client R) := by
  rw [afterInspect, Work.fine_call]
  exact (stepwise_sends (CentralSession.sync_sends session (d.record hostId) h)).bind
    afterSync_sends

theorem fine_forget (session : CentralSession) (id : String) :
    fine session (forget id) =
      (Work.stepwise session (.delete id)).bind fun deleted =>
        (Work.stepwise session (.removeIgnored id)).bind fun cleared =>
          .done (deleted.bind fun _ => cleared) := rfl

theorem forget_sends (id : String) (hdelete : R (.delete id)) (hunignore : R (.unignore id)) :
    (fine session (forget id)).Asking (AgentStep.Sends session.client R) := by
  have hfirst : (Work.stepwise session (.delete id)).Asking (AgentStep.Sends session.client R) :=
    stepwise_sends (CentralSession.delete_sends id hdelete)
  have hsecond : (Work.stepwise session (.removeIgnored id)).Asking
      (AgentStep.Sends session.client R) :=
    stepwise_sends (CentralSession.removeIgnored_sends id hunignore)
  rw [fine_forget]
  exact hfirst.bind fun _ => hsecond.bind fun _ => .done _

theorem stepwise_delete {id : String} {http : HttpRequest}
    (hhttp : (ContainerRequest.delete id).http? session.client = some http) :
    ∃ k, Work.stepwise session (.delete id) = .ask (.exchange (.send http)) k := by
  obtain ⟨url, hurl, hcreate⟩ := (ContainerRequest.http?_eq_some_iff _ _ _).1 hhttp
  have hdelete : (session.exchange (.delete id)).run =
      .ask (.send http) (CentralClient.onReply (CentralClient.deleted url)) :=
    CentralClient.delete_run hurl hcreate
  rw [Work.stepwise, hdelete]
  exact ⟨_, rfl⟩

/-- Forgetting a container begins with the deletion of its record. -/
theorem forget_deletes {id : String} {http : HttpRequest}
    (hhttp : (ContainerRequest.delete id).http? session.client = some http) :
    ∃ k, fine session (forget id) = .ask (.exchange (.send http)) k := by
  obtain ⟨k, hk⟩ := stepwise_delete hhttp
  rw [fine_forget, hk]
  exact ⟨_, rfl⟩

end Reconcile

end HostAgent
