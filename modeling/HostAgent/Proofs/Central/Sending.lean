import HostAgent.Proofs.Central.Contract
import HostAgent.Proofs.Work.History

/-!
# What calls send

The forms of exchange as programs: each sends one request, if there is an
address for it, and its outcome depends on the response alone. From this follows
which requests a call about a container may send at all, whatever is replied.

## Main results

* `statusOf_run`, `submit_run`, `put_run`, `delete_run`, `get_run`: the forms of exchange.
* `sync_sends`, `removeIgnored_sends`, `delete_sends`: the requests of a call.
-/

namespace HostAgent

open Program (Asking)

variable {α β : Type} {c : CentralClient} {method : HttpMethod} {path : String} {url : Url}
  {http : HttpRequest}

namespace Exchange

@[simp] theorem ok_bind (a : α) (f : α → Exchange β) :
    (liftM (Except.ok a : Except CentralError α) : Exchange α) >>= f = f a := rfl

theorem asking_step {P : CentralStep → Prop} {s : CentralStep} (hs : P s) :
    (step s).run.Asking P := .ask hs fun _ => .done _

theorem asking_pure {P : CentralStep → Prop} (a : α) : (pure a : Exchange α).run.Asking P :=
  .done _

theorem asking_throw {P : CentralStep → Prop} (e : CentralError) :
    (throw e : Exchange α).run.Asking P := .done _

theorem asking_outcome {P : CentralStep → Prop} {e : Exchange α} (he : e.run.Asking P) :
    e.outcome.run.Asking P := he.bind fun _ => .done _

end Exchange

/-! ## Forms of exchange -/

namespace CentralClient

/-- What a form of exchange makes of the reply to its request. -/
def onReply (f : HttpResponse → Except CentralError α) :
    Option HttpResponse → Program CentralStep.Reply (Except CentralError α)
  | some response => .done (f response)
  | none => .done (.error .transport)

/-- A response of success, or an error with its status. -/
def successful (method : HttpMethod) (url : Url) (response : HttpResponse) :
    Except CentralError HttpResponse :=
  if response.isSuccess then .ok response
  else .error (.status method.name url.render response.status (errorText response))

/-- One request, and then nothing more to ask. -/
theorem onReply_bind {e : Exchange α} {f : HttpResponse → Except CentralError α}
    (he : e.run = .ask (.send http) (onReply f)) {k : α → Exchange β}
    {g : α → Except CentralError β} (hk : ∀ a, (k a).run = .done (g a)) :
    (e >>= k).run = .ask (.send http) (onReply fun response => (f response).bind g) := by
  rw [Program.except_bind, he]
  refine congrArg (Program.ask (CentralStep.send http)) (funext fun reply => ?_)
  cases reply with
  | none => rfl
  | some response =>
      show (Program.done (f response)).bind _ = .done ((f response).bind g)
      cases f response with
      | error err => rfl
      | ok a => exact hk a

theorem send_run {body : Option Json}
    (hhttp : HttpRequest.create? method url c.token body = some http) :
    (c.send method url body).run = .ask (.send http) (onReply .ok) := by
  simp only [send, hhttp]
  refine congrArg (Program.ask (CentralStep.send http)) (funext fun reply => ?_)
  cases reply <;> rfl

theorem sendSuccessfully_run {body : Option Json}
    (hhttp : HttpRequest.create? method url c.token body = some http) :
    (c.sendSuccessfully method url body).run =
      .ask (.send http) (onReply (successful method url)) := by
  refine onReply_bind (send_run hhttp) (g := successful method url) ?_
  intro response
  unfold successful
  split <;> rfl

theorem statusOf_run (hurl : c.resolve path = .ok url)
    (hhttp : HttpRequest.create? method url c.token none = some http) :
    (c.statusOf method path).run =
      .ask (.send http) (onReply fun response => .ok response.status) := by
  rw [statusOf, hurl, Exchange.ok_bind]
  exact onReply_bind (send_run hhttp) (g := fun response => .ok response.status) fun _ => rfl

theorem submit_run {value : Json} (hurl : c.resolve path = .ok url)
    (hhttp : HttpRequest.create? method url c.token (some value) = some http) :
    (c.submit method path value).run = .ask (.send http) (onReply .ok) := by
  rw [submit, hurl, Exchange.ok_bind, send_run hhttp]

theorem put_run {value : Json} (hurl : c.resolve path = .ok url)
    (hhttp : HttpRequest.create? method url c.token (some value) = some http) :
    (c.put method path value).run =
      .ask (.send http) (onReply fun response =>
        (successful method url response).bind fun _ => .ok ()) := by
  rw [put, hurl, Exchange.ok_bind]
  exact onReply_bind (sendSuccessfully_run hhttp) fun _ => rfl

/-- What a deletion makes of a response. -/
def deleted (url : Url) (response : HttpResponse) : Except CentralError Unit :=
  if response.status = 404 then .ok ()
  else (successful .delete url response).bind fun _ => .ok ()

theorem delete_run (hurl : c.resolve path = .ok url)
    (hhttp : HttpRequest.create? .delete url c.token none = some http) :
    (c.delete path).run = .ask (.send http) (onReply (deleted url)) := by
  rw [CentralClient.delete, hurl, Exchange.ok_bind]
  refine onReply_bind (send_run hhttp) (g := deleted url) ?_
  intro response
  by_cases h404 : response.status = 404
  · simp only [deleted, h404, true_or, if_true]
    rfl
  · simp only [deleted, successful, h404, false_or, if_false]
    cases response.isSuccess <;> rfl

theorem get_run (d : Json.Decoder α) (hurl : c.resolve path = .ok url)
    (hhttp : HttpRequest.create? .get url c.token none = some http) :
    (c.get d path).run =
      .ask (.send http) (onReply fun response =>
        (successful .get url response).bind fun response =>
          (Json.decodeText d response.body).mapError fun _ => .transport) := by
  rw [CentralClient.get, hurl, Exchange.ok_bind]
  refine onReply_bind (sendSuccessfully_run hhttp) ?_
  intro response
  unfold read
  cases Json.decodeText d response.body <;> rfl

/-! ## Requests of a form -/

theorem resolve_asking {P : CentralStep → Prop} {k : Url → Exchange α}
    (h : ∀ url, c.resolve path = .ok url → (k url).run.Asking P) :
    ((liftM (c.resolve path) : Exchange Url) >>= k).run.Asking P := by
  cases hurl : c.resolve path with
  | error e => exact Exchange.asking_throw e
  | ok url => exact h url hurl

theorem send_asking {P : CentralStep → Prop} {body : Option Json}
    (h : ∀ http, HttpRequest.create? method url c.token body = some http → P (.send http)) :
    (c.send method url body).run.Asking P := by
  cases hhttp : HttpRequest.create? method url c.token body with
  | none =>
      simp only [send, hhttp]
      exact Exchange.asking_throw _
  | some http =>
      rw [send_run hhttp]
      refine .ask (h http hhttp) ?_
      rintro (_ | response)
      · exact .done _
      · exact .done _

/-- A step that sends nothing but some requests about containers. -/
def Sends (c : CentralClient) (R : ContainerRequest → Prop) : CentralStep → Prop
  | .send http => ∃ r, R r ∧ r.http? c = some http
  | _ => True

variable {R : ContainerRequest → Prop} (r : ContainerRequest)

/-- To send a request to its address is to send that request. -/
theorem request_sends (hr : R r) {k : HttpResponse → Url → Exchange α}
    (hk : ∀ response url, (k response url).run.Asking (Sends c R)) :
    (do
      let url ← c.resolve r.path
      let response ← c.send r.method url r.body
      k response url : Exchange α).run.Asking (Sends c R) := by
  apply resolve_asking
  intro url hurl
  apply Asking.except_bind
  · apply send_asking
    intro http hhttp
    exact ⟨r, hr, (ContainerRequest.http?_eq_some_iff c r http).2 ⟨url, hurl, hhttp⟩⟩
  · intro response
    exact hk response url

theorem put_sends {value : Json} (hr : R r) (hbody : r.body = some value) :
    (c.put r.method r.path value).run.Asking (Sends c R) := by
  apply resolve_asking
  intro url hurl
  apply Asking.except_bind
  · apply Asking.except_bind
    · apply send_asking
      intro http hhttp
      rw [← hbody] at hhttp
      exact ⟨r, hr, (ContainerRequest.http?_eq_some_iff c r http).2 ⟨url, hurl, hhttp⟩⟩
    · intro response
      split
      · exact Exchange.asking_pure _
      · exact Exchange.asking_throw _
  · intro _
    exact Exchange.asking_pure _

theorem refuse_asking {P : CentralStep → Prop} (status : UInt16) (body : String) :
    (c.refuse method path status body : Exchange α).run.Asking P := by
  apply resolve_asking
  intro url hurl
  exact Exchange.asking_throw _

end CentralClient

/-! ## Requests of a call -/

namespace CentralSession

open CentralClient (Sends request_sends put_sends refuse_asking)
open Exchange (asking_step asking_pure asking_throw asking_outcome)

variable {R : ContainerRequest → Prop}

theorem isIgnored_sends (id : String) (h : R (.isIgnored id)) :
    (isIgnored c id).run.Asking (Sends c R) := by
  apply Asking.except_bind (asking_step trivial)
  intro known
  cases known with
  | true => exact asking_pure false
  | false =>
      apply Asking.except_bind (request_sends (.isIgnored id) h fun _ _ => asking_pure _)
      intro status
      split
      · exact Asking.except_bind (asking_step trivial) fun _ => asking_pure true
      · split
        · exact Asking.except_bind (asking_step trivial) fun _ => asking_pure false
        · exact refuse_asking _ _

theorem removeIgnored_sends (id : String) (h : R (.unignore id)) :
    (removeIgnored c id).run.Asking (Sends c R) := by
  apply Asking.except_bind (asking_step trivial)
  intro _
  apply request_sends (.unignore id) h
  intro response url
  split
  · exact asking_pure ()
  · exact asking_throw _

theorem delete_sends (id : String) (h : R (.delete id)) :
    (c.delete (recordPath id)).run.Asking (Sends c R) := by
  apply request_sends (.delete id) h
  intro response url
  split
  · exact asking_pure ()
  · exact asking_throw _

theorem hasRecord_sends (id : String) (h : R (.hasRecord id)) :
    (hasRecord c id).run.Asking (Sends c R) := by
  apply Asking.except_bind
    (asking_outcome (request_sends (.hasRecord id) h fun _ _ => asking_pure _))
  intro outcome
  cases outcome with
  | error e => exact asking_pure false
  | ok status => exact asking_pure _

theorem update_sends (record : ContainerRecord) (h : R (.update record)) :
    (update c record).run.Asking (Sends c R) := by
  apply Asking.except_bind (put_sends (.update record) h rfl)
  intro _
  exact asking_pure _

theorem settle_sends (record : ContainerRecord) (hhas : R (.hasRecord record.id))
    (hupdate : R (.update record)) (wait : Duration) (retries : Nat) :
    (settle c record wait retries).run.Asking (Sends c R) := by
  induction retries generalizing wait with
  | zero => exact asking_throw _
  | succ retries ih =>
      apply Asking.except_bind (asking_step trivial)
      intro _
      apply Asking.except_bind (hasRecord_sends record.id hhas)
      intro found
      split
      · exact update_sends record hupdate
      · exact ih wait.double

theorem create_sends (s : CentralSession) (record : ContainerRecord)
    (hhas : R (.hasRecord record.id)) (hupdate : R (.update record))
    (hcreate : R (.create record)) : (s.create record).run.Asking (Sends s.client R) := by
  have hsubmit : (s.client.submit .post "containers" record.toJson).run.Asking
      (Sends s.client R) := by
    apply CentralClient.resolve_asking
    intro url hurl
    apply CentralClient.send_asking
    intro http hhttp
    exact ⟨.create record, hcreate,
      (ContainerRequest.http?_eq_some_iff _ _ _).2 ⟨url, hurl, hhttp⟩⟩
  apply Asking.except_bind hsubmit
  intro response
  split
  · exact asking_pure _
  · split
    · exact settle_sends record hhas hupdate _ _
    · exact refuse_asking _ _

/-- Whatever is replied, syncing a record sends nothing but the requests of a sync. -/
theorem sync_sends (s : CentralSession) (record : ContainerRecord)
    (h : ∀ r ∈ ContainerRequest.ofSync record, R r) :
    (s.sync record).run.Asking (Sends s.client R) := by
  have hhas : R (.hasRecord record.id) := h _ (by simp)
  have hupdate : R (.update record) := h _ (by simp)
  apply Asking.except_bind (isIgnored_sends record.id (h _ (by simp)))
  intro ignored
  split
  · exact asking_pure _
  · apply Asking.except_bind (hasRecord_sends record.id hhas)
    intro found
    split
    · exact update_sends record hupdate
    · exact create_sends s record hhas hupdate (h _ (by simp))

end CentralSession

end HostAgent
