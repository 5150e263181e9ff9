import Mathlib.Data.List.Induction
import HostAgent.Proofs.Central.Addressing
import HostAgent.Proofs.Central.Traffic

/-!
# What is remembered about the ignore list

That a container is not on the ignore list may be remembered for some time, and
while it is, the question is answered without the server. Which answer that is
shows from outside: the last event about the container has to be a reply of 404
to the question itself, and young enough. Events are such replies, and whatever
clears what is remembered. A reply of success clears it too but is no event,
since there is no such reply while something young enough is remembered.

Each call has the instant at which it began, the instant at which a reply to it
was dealt with, and the reply. The instants never decrease; the replies may be
anything.

## Main results

* `http?_isSome_iff`: which clients can send at all.
* `isKnown_sweep`: an answer that is too old may as well be dropped.
* `recalls`: what the cache holds about a container, from the events about it.
* `isKnown_iff_fresh`: when the question is answered without the server.
* `remembered_alone`: calls about other containers change nothing.
* `isIgnored_remembers`: all of this about one more question.
-/

namespace HostAgent

/-! ## Clients that can send -/

/-- The base is a place of the web, and the token can be sent. -/
structure CentralClient.CanSend (c : CentralClient) : Prop where
  scheme : c.base.scheme = "http" ∨ c.base.scheme = "https"
  hierarchy : ∃ segments, c.base.path = .segments segments
  token : c.HasSendableToken

theorem HttpRequest.create?_isSome_iff (method : HttpMethod) (url : Url) (token : Option String)
    (body : Option Json) : (create? method url token body).isSome = true ↔
      (url.scheme = "http" ∨ url.scheme = "https") ∧ token.all isHeaderText = true := by
  unfold create?
  split
  · rename_i h
    simpa using h
  · rename_i h
    simpa using h

/-- Nothing but the client decides whether a request about a container can be sent. -/
theorem ContainerRequest.http?_isSome_iff (c : CentralClient) (r : ContainerRequest) :
    (r.http? c).isSome = true ↔ c.CanSend := by
  have hled : Url.Led r.path.toList := r.path_led
  have hresolve : c.resolve r.path = (c.base.join r.path).mapError .url := by
    rw [CentralClient.resolve, Url.dropLeading_of_led hled]
  by_cases hfile : c.base.scheme = "file"
  · -- A file is never sent to, and what is relative to a file is a file.
    have hnot : ¬ (c.base.scheme = "http" ∨ c.base.scheme = "https") := by
      rw [hfile]
      decide
    refine iff_of_false ?_ fun h => hnot h.scheme
    rw [http?, hresolve]
    cases hjoin : c.base.join r.path with
    | error e => simp [Except.mapError]
    | ok url =>
        have hurl : url.scheme = "file" := Url.join_file_scheme hled hfile hjoin
        simp [Except.mapError, HttpRequest.create?_isSome_iff, hurl]
  · rcases Url.join_led c.base hled hfile with ⟨⟨path, hpath⟩, hjoin⟩ | ⟨hpath, hjoin⟩
    · refine iff_of_false ?_ fun h => ?_
      · rw [http?, hresolve, hjoin]
        simp [Except.mapError]
      · obtain ⟨segments, hsegments⟩ := h.hierarchy
        rw [hpath] at hsegments
        cases hsegments
    · rw [http?, hresolve, hjoin]
      simp only [Except.mapError, HttpRequest.create?_isSome_iff]
      exact ⟨fun h => ⟨h.1, hpath, h.2⟩, fun h => ⟨h.scheme, h.token⟩⟩

/-! ## The calls as programs -/

namespace CentralSession

open CentralClient (bind_failed send_failed statusOf_run delete_run onReply)

variable {c : CentralClient} {id : String} {http : HttpRequest}

/-- What is made of the reply to the question whether a container is ignored. -/
def probed (c : CentralClient) (id : String) :
    HttpReply → Program CentralStep.Reply (Except CentralError Bool)
  | none => .done (.error .transport)
  | some response =>
    if response.isSuccess then .ask (.forget id) fun _ => .done (.ok true)
    else if response.status = 404 then .ask (.remember id) fun _ => .done (.ok false)
    else .done (.error ((ContainerRequest.isIgnored id).failure c (some response)))

/-- Unless the answer is known, the server is asked. -/
theorem isIgnored_run (hhttp : (ContainerRequest.isIgnored id).http? c = some http) :
    (isIgnored c id).run = .ask (.isKnown id) fun known =>
      if known = true then .done (.ok false) else .ask (.send http) (probed c id) := by
  obtain ⟨url, hurl, hcreate⟩ := (ContainerRequest.http?_eq_some_iff _ _ _).1 hhttp
  have hstatus : (c.statusOf .head (ignoredPath id)).run = _ := statusOf_run hurl hcreate
  have hfailure : ∀ response, (ContainerRequest.isIgnored id).failure c (some response) =
      .status HttpMethod.head.name url.render response.status "" := by
    intro response
    rw [ContainerRequest.failure, hurl]
    rfl
  refine congrArg (Program.ask (CentralStep.isKnown id)) (funext fun known => ?_)
  cases known with
  | true => rfl
  | false =>
      show (c.statusOf .head (ignoredPath id) >>= _).run = _
      rw [Program.except_bind, hstatus]
      refine congrArg (Program.ask (CentralStep.send http)) (funext fun reply => ?_)
      cases reply with
      | none => rfl
      | some response =>
          have hrefuse : (c.refuse .head (ignoredPath id) response.status "" : Exchange Bool) =
              throw (.status HttpMethod.head.name url.render response.status "") := by
            rw [CentralClient.refuse, show c.resolve (ignoredPath id) = .ok url from hurl,
              Exchange.ok_bind]
          show (if isSuccessStatus response.status = true then _ else _ : Exchange Bool).run = _
          rw [hrefuse]
          by_cases hsuccess : isSuccessStatus response.status = true
          · have hprobed : response.isSuccess = true := hsuccess
            simp only [probed, hsuccess, hprobed, if_true]
            rfl
          · have hprobed : ¬ response.isSuccess = true := hsuccess
            simp only [probed, hsuccess, hprobed]
            by_cases h404 : response.status = 404
            · simp only [h404, if_true]
              rfl
            · simp only [h404, hfailure]
              rfl

/-- If the question cannot be sent, only what is known is an answer. -/
theorem isIgnored_unsent (hhttp : (ContainerRequest.isIgnored id).http? c = none) :
    ∃ e, (isIgnored c id).run = .ask (.isKnown id) fun known =>
      if known = true then .done (.ok false) else .done (.error e) := by
  have hfailed : ∃ e, (c.statusOf .head (ignoredPath id)).run = .done (.error e) := by
    cases hurl : c.resolve (ignoredPath id) with
    | error e =>
        refine ⟨e, ?_⟩
        rw [CentralClient.statusOf, hurl]
        rfl
    | ok url =>
        have hcreate : HttpRequest.create? .head url c.token none = none := by
          refine Option.eq_none_iff_forall_ne_some.2 fun http hcreate => ?_
          have hsome := (ContainerRequest.http?_eq_some_iff c (.isIgnored id) http).2
            ⟨url, hurl, hcreate⟩
          rw [hhttp] at hsome
          cases hsome
        refine ⟨.transport, ?_⟩
        rw [CentralClient.statusOf, hurl, Exchange.ok_bind]
        exact bind_failed (send_failed hcreate)
  obtain ⟨e, hrun⟩ := hfailed
  refine ⟨e, congrArg (Program.ask (CentralStep.isKnown id)) (funext fun known => ?_)⟩
  cases known with
  | true => rfl
  | false => exact bind_failed hrun

/-- To clear an entry is to forget what is known, and then to send one request at the most. -/
theorem removeIgnored_run (c : CentralClient) (id : String) :
    ∃ rest, (removeIgnored c id).run = .ask (.forget id) (fun _ => rest) ∧
      ((∃ e, rest = .done (.error e)) ∨ ∃ http f, rest = .ask (.send http) (onReply f)) := by
  refine ⟨(c.delete (ignoredPath id)).run, rfl, ?_⟩
  cases hurl : c.resolve (ignoredPath id) with
  | error e =>
      refine .inl ⟨e, ?_⟩
      rw [CentralClient.delete, hurl]
      rfl
  | ok url =>
      cases hcreate : HttpRequest.create? .delete url c.token none with
      | none =>
          refine .inl ⟨.transport, ?_⟩
          rw [CentralClient.delete, hurl, Exchange.ok_bind]
          exact bind_failed (send_failed hcreate)
      | some http => exact .inr ⟨http, _, delete_run hurl hcreate⟩

end CentralSession

/-! ## The cache -/

namespace IgnoreCache

variable (c : IgnoreCache) (id other : String)

theorem get?_forget :
    (c.forget id).seen.get? other = if other = id then none else c.seen.get? other :=
  KeyMap.get?_erase c.seen id other

theorem get?_remember (now : Duration) : (c.remember now id).seen.get? other =
    if c.lifetime ≠ .zero ∧ other = id then some now else c.seen.get? other := by
  unfold remember
  by_cases hzero : c.lifetime = .zero <;> simp [hzero]

@[simp] theorem lifetime_forget : (c.forget id).lifetime = c.lifetime := rfl

@[simp] theorem lifetime_remember (now : Duration) :
    (c.remember now id).lifetime = c.lifetime := by
  unfold remember
  split <;> rfl

/-- An answer that is too old once stays so: it may as well be dropped when it is looked at. -/
theorem isKnown_sweep {now later : Duration} (hclock : now.nanos ≤ later.nanos)
    (hold : c.isKnown now id = false) :
    (c.forget id).isKnown later other = c.isKnown later other := by
  by_cases hid : other = id
  · subst hid
    rw [isKnown_forget, isKnown]
    rw [isKnown] at hold
    cases hseen : c.seen.get? other with
    | none => rfl
    | some instant =>
        rw [hseen] at hold
        have hage : ¬ now.nanos - instant.nanos < c.lifetime.nanos := of_decide_eq_false hold
        have hold' : ¬ later.nanos - instant.nanos < c.lifetime.nanos := by omega
        exact (decide_eq_false hold').symm
  · exact c.isKnown_forget_of_ne later hid

end IgnoreCache

/-! ## Visits to the ignore list -/

namespace IgnoreList

/-- A call about a container and the ignore list. -/
inductive Call
  | isIgnored (id : String)
  | remove (id : String)
  /-- Only what is known is cleared. -/
  | invalidate (id : String)
deriving DecidableEq, Repr

namespace Call

def id : Call → String
  | isIgnored id | remove id | invalidate id => id

@[reducible] def Result : Call → Type
  | isIgnored _ => Bool
  | remove _ | invalidate _ => Unit

def exchange (c : CentralClient) : (call : Call) → Exchange call.Result
  | isIgnored id => CentralSession.isIgnored c id
  | remove id => CentralSession.removeIgnored c id
  | invalidate id => Exchange.step (.forget id)

end Call

/-- When a call began, when the reply to it was dealt with, and that reply. -/
structure Moment where
  began : Duration
  ended : Duration
  reply : HttpReply
deriving DecidableEq, Repr

/-- The steps of a call, at its moment. -/
def Moment.answer (m : Moment) (cache : IgnoreCache) :
    (step : CentralStep) → step.Reply × IgnoreCache
  | .send _ => (m.reply, cache)
  | .sleep _ => ((), cache)
  | .isKnown id => (cache.isKnown m.began id, cache)
  | .remember id => ((), cache.remember m.ended id)
  | .forget id => ((), cache.forget id)

structure Visit where
  call : Call
  moment : Moment
deriving DecidableEq, Repr

namespace Visit

variable (c : CentralClient) (cache : IgnoreCache) (v : Visit)

def traffic : List Traffic :=
  HostAgent.traffic ((v.call.exchange c).run.history v.moment.answer cache)

def outcome : Except CentralError v.call.Result :=
  ((v.call.exchange c).run.run v.moment.answer cache).1

/-- What is known after the call. -/
def after : IgnoreCache := ((v.call.exchange c).run.run v.moment.answer cache).2

def instants : List Duration := [v.moment.began, v.moment.ended]

end Visit

/-- What is known after calls one after another, if nothing was known before them. -/
def cacheAfter (c : CentralClient) (lifetime : Duration) (past : List Visit) : IgnoreCache :=
  past.foldl (Visit.after c) (.empty lifetime)

/-- No clock goes back. -/
def Chronological (past : List Visit) : Prop :=
  (past.flatMap Visit.instants).Pairwise fun s t => s.nanos ≤ t.nanos

instance (past : List Visit) : Decidable (Chronological past) :=
  inferInstanceAs (Decidable (List.Pairwise _ _))

/-! ## Events -/

/-- Something that decides what is known about a container. -/
inductive Event
  /-- The question was answered with 404 at this instant. -/
  | absent (id : String) (instant : Duration)
  | cleared (id : String)
deriving DecidableEq, Repr

def Event.id : Event → String
  | absent id _ | cleared id => id

/-- The event of a call, from its traffic. -/
def Visit.event? (v : Visit) (t : List Traffic) : Option Event :=
  match v.call with
  | .isIgnored id =>
    if (replies .head t).any (·.tells 404) then some (.absent id v.moment.ended) else none
  | .remove id | .invalidate id => some (.cleared id)

/-- The events of calls one after another. -/
def events (c : CentralClient) (cache : IgnoreCache) : List Visit → List Event
  | [] => []
  | v :: past => (v.event? (v.traffic c cache)).toList ++ events c (v.after c cache) past

/-- The last event about a container. -/
def lastEvent (id : String) (es : List Event) : Option Event := (es.filter (·.id = id)).getLast?

/-- The last event about a container is an answer of 404 that is younger than the lifetime. -/
def Fresh (c : CentralClient) (lifetime : Duration) (past : List Visit) (id : String)
    (now : Duration) : Prop :=
  lifetime ≠ .zero ∧ ∃ instant,
    lastEvent id (events c (.empty lifetime) past) = some (.absent id instant) ∧
      now.since instant < lifetime

/-! ## One visit -/

section Visits

variable {c : CentralClient} {cache : IgnoreCache} {id : String} {m : Moment}

/-- The visit that asks whether a container is ignored. -/
abbrev question (id : String) (m : Moment) : Visit := ⟨.isIgnored id, m⟩

/-- The ways in which the question is answered: the traffic, what comes of it, and what is known
after it. -/
inductive Answered (c : CentralClient) (cache : IgnoreCache) (id : String) (m : Moment) :
    List Traffic → Except CentralError Bool → IgnoreCache → Prop
  | known : cache.isKnown m.began id = true → Answered c cache id m [] (.ok false) cache
  | unsent (e : CentralError) :
      cache.isKnown m.began id = false → ¬ c.CanSend → Answered c cache id m [] (.error e) cache
  | listed {http : HttpRequest} :
      cache.isKnown m.began id = false → (ContainerRequest.isIgnored id).http? c = some http →
      m.reply.succeeds = true →
      Answered c cache id m [.sent http m.reply] (.ok true) (cache.forget id)
  | absent {http : HttpRequest} :
      cache.isKnown m.began id = false → (ContainerRequest.isIgnored id).http? c = some http →
      m.reply.tells 404 = true →
      Answered c cache id m [.sent http m.reply] (.ok false) (cache.remember m.ended id)
  | refused {http : HttpRequest} (e : CentralError) :
      cache.isKnown m.began id = false → (ContainerRequest.isIgnored id).http? c = some http →
      m.reply.succeeds = false → m.reply.tells 404 = false →
      Answered c cache id m [.sent http m.reply] (.error e) cache

/-- What is made of a reply sends nothing more. -/
theorem probed_answered {http : HttpRequest} (hknown : cache.isKnown m.began id = false)
    (hhttp : (ContainerRequest.isIgnored id).http? c = some http) :
    let rest := CentralSession.probed c id m.reply
    Answered c cache id m (.sent http m.reply :: HostAgent.traffic (rest.history m.answer cache))
      (rest.run m.answer cache).1 (rest.run m.answer cache).2 := by
  obtain ⟨began, ended, reply⟩ := m
  cases reply with
  | none => exact .refused _ hknown hhttp rfl rfl
  | some response =>
      by_cases hsuccess : response.isSuccess = true
      · simp only [CentralSession.probed, hsuccess, if_true]
        exact .listed hknown hhttp hsuccess
      · simp only [CentralSession.probed, hsuccess]
        rw [Bool.not_eq_true] at hsuccess
        by_cases h404 : response.status = 404
        · simp only [h404, if_true]
          exact .absent hknown hhttp (beq_iff_eq.2 h404)
        · simp only [h404, if_false]
          exact .refused _ hknown hhttp hsuccess (beq_eq_false_iff_ne.2 h404)

theorem question_answered (c : CentralClient) (cache : IgnoreCache) (id : String) (m : Moment) :
    Answered c cache id m ((question id m).traffic c cache) ((question id m).outcome c cache)
      ((question id m).after c cache) := by
  cases hhttp : (ContainerRequest.isIgnored id).http? c with
  | none =>
      obtain ⟨e, hrun⟩ := CentralSession.isIgnored_unsent hhttp
      simp only [Visit.traffic, Visit.outcome, Visit.after, Call.exchange, hrun, Program.history,
        Program.run, Moment.answer]
      by_cases hknown : cache.isKnown m.began id = true
      · simp only [hknown, if_true]
        exact .known hknown
      · have hmute : ¬ c.CanSend := by
          rw [← ContainerRequest.http?_isSome_iff c (.isIgnored id), hhttp]
          simp
        simp only [hknown]
        rw [Bool.not_eq_true] at hknown
        exact .unsent e hknown hmute
  | some http =>
      have hrun := CentralSession.isIgnored_run hhttp
      simp only [Visit.traffic, Visit.outcome, Visit.after, Call.exchange, hrun, Program.history,
        Program.run, Moment.answer]
      by_cases hknown : cache.isKnown m.began id = true
      · simp only [hknown, if_true]
        exact .known hknown
      · simp only [hknown]
        rw [Bool.not_eq_true] at hknown
        exact probed_answered hknown hhttp

section Answers

variable {t : List Traffic} {o : Except CentralError Bool} {cache' : IgnoreCache}

theorem Answered.traffic_eq_nil_iff (h : Answered c cache id m t o cache') :
    t = [] ↔ cache.isKnown m.began id = true ∨ ¬ c.CanSend := by
  have hsendable : ∀ http, (ContainerRequest.isIgnored id).http? c = some http → c.CanSend := by
    intro http hhttp
    rw [← ContainerRequest.http?_isSome_iff c (.isIgnored id), hhttp]
    rfl
  cases h with
  | known hknown => simp [hknown]
  | unsent _ _ hmute => simp [hmute]
  | listed hknown hhttp _ => simp [hknown, hsendable _ hhttp]
  | absent hknown hhttp _ => simp [hknown, hsendable _ hhttp]
  | refused _ hknown hhttp _ _ => simp [hknown, hsendable _ hhttp]

theorem Answered.ok_of_known (h : Answered c cache id m t o cache')
    (hknown : cache.isKnown m.began id = true) : o = .ok false := by
  cases h with
  | known _ => rfl
  | absent _ _ _ => rfl
  | unsent _ h _ => simp [h] at hknown
  | listed h _ _ => simp [h] at hknown
  | refused _ h _ _ _ => simp [h] at hknown

theorem Answered.ok_true_iff (h : Answered c cache id m t o cache') :
    o = .ok true ↔ ∃ http : HttpRequest, http.method = .head ∧
      (ContainerRequest.isIgnored id).http? c = some http ∧
      t = [.sent http m.reply] ∧ m.reply.succeeds = true := by
  cases h with
  | known _ => simp
  | unsent _ _ _ => simp
  | listed _ hhttp hsuccess =>
      simp [hhttp, hsuccess, ContainerRequest.http?_method hhttp, ContainerRequest.method]
  | absent _ _ h404 => simp [HttpReply.succeeds_of_tells h404, isSuccessStatus]
  | refused _ _ _ hfails _ => simp [hfails]

end Answers

/-- To clear an entry clears what is known, whatever is replied. -/
theorem after_cleared {v : Visit} (hv : v.call = .remove id ∨ v.call = .invalidate id) :
    v.after c cache = cache.forget id := by
  obtain ⟨call, m⟩ := v
  rcases hv with rfl | rfl
  · obtain ⟨rest, hrun, hrest⟩ := CentralSession.removeIgnored_run c id
    show ((CentralSession.removeIgnored c id).run.run m.answer cache).2 = _
    rw [hrun]
    show (rest.run m.answer (cache.forget id)).2 = _
    rcases hrest with ⟨e, rfl⟩ | ⟨http, f, rfl⟩
    · rfl
    · show ((CentralClient.onReply f m.reply).run m.answer (cache.forget id)).2 = _
      cases m.reply <;> rfl
  · rfl

end Visits

/-! ## What the cache holds -/

section Histories

variable {c : CentralClient} {lifetime : Duration} {cache : IgnoreCache} {id : String}

/-- The steps of a call concern no other container. -/
def Concerns (id : String) : CentralStep → Prop
  | .isKnown own | .remember own | .forget own => own = id
  | .send _ | .sleep _ => True

theorem exchange_concerns (c : CentralClient) (call : Call) :
    (call.exchange c).run.Asking (Concerns call.id) := by
  cases call with
  | isIgnored id =>
      show (CentralSession.isIgnored c id).run.Asking (Concerns id)
      cases hhttp : (ContainerRequest.isIgnored id).http? c with
      | none =>
          obtain ⟨e, hrun⟩ := CentralSession.isIgnored_unsent hhttp
          rw [hrun]
          refine .ask rfl fun known => ?_
          cases known <;> exact .done _
      | some http =>
          rw [CentralSession.isIgnored_run hhttp]
          refine .ask rfl fun known => ?_
          cases known with
          | true => exact .done _
          | false =>
              refine .ask trivial fun reply => ?_
              cases reply with
              | none => exact .done _
              | some response =>
                  rw [CentralSession.probed]
                  split
                  · exact .ask rfl fun _ => .done _
                  · split
                    · exact .ask rfl fun _ => .done _
                    · exact .done _
  | remove id =>
      obtain ⟨rest, hrun, hrest⟩ := CentralSession.removeIgnored_run c id
      show (CentralSession.removeIgnored c id).run.Asking (Concerns id)
      rw [hrun]
      refine .ask rfl fun _ => ?_
      rcases hrest with ⟨e, rfl⟩ | ⟨http, f, rfl⟩
      · exact .done _
      · refine .ask trivial fun reply => ?_
        cases reply <;> exact .done _
  | invalidate id => exact .ask rfl fun _ => .done _

/-- A call changes what is known about its own container only, and no lifetime. -/
theorem after_frame (c : CentralClient) (cache : IgnoreCache) (v : Visit) :
    (v.after c cache).lifetime = cache.lifetime ∧
      ∀ id ≠ v.call.id, (v.after c cache).seen.get? id = cache.seen.get? id := by
  refine (exchange_concerns c v.call).preserves (I := fun cache' : IgnoreCache =>
    cache'.lifetime = cache.lifetime ∧
      ∀ id ≠ v.call.id, cache'.seen.get? id = cache.seen.get? id) ?_ ⟨rfl, fun _ _ => rfl⟩
  intro cache' step hstep hsame
  cases step with
  | remember own =>
      refine ⟨(cache'.lifetime_remember own _).trans hsame.1, fun id hne => ?_⟩
      show (cache'.remember _ own).seen.get? id = _
      rw [cache'.get?_remember, if_neg fun h => hne (h.2.trans hstep), hsame.2 id hne]
  | forget own =>
      refine ⟨hsame.1, fun id hne => ?_⟩
      show (cache'.forget own).seen.get? id = _
      rw [cache'.get?_forget, if_neg fun h => hne (h.trans hstep), hsame.2 id hne]
  | _ => exact hsame

/-- Two caches that hold the same about a container. -/
structure Alike (id : String) (cache cache' : IgnoreCache) : Prop where
  lifetime_eq : cache.lifetime = cache'.lifetime
  seen_eq : cache.seen.get? id = cache'.seen.get? id

theorem Alike.answer {cache' : IgnoreCache} {m : Moment} (h : Alike id cache cache')
    (step : CentralStep) (hstep : Concerns id step) :
    (m.answer cache step).1 = (m.answer cache' step).1 ∧
      Alike id (m.answer cache step).2 (m.answer cache' step).2 := by
  cases step with
  | isKnown own =>
      obtain rfl : own = id := hstep
      refine ⟨?_, h⟩
      show cache.isKnown _ own = cache'.isKnown _ own
      rw [IgnoreCache.isKnown, IgnoreCache.isKnown, h.lifetime_eq, h.seen_eq]
  | remember own =>
      refine ⟨rfl, ?_, ?_⟩
      · show (cache.remember _ own).lifetime = (cache'.remember _ own).lifetime
        rw [cache.lifetime_remember, cache'.lifetime_remember, h.lifetime_eq]
      · show (cache.remember _ own).seen.get? id = (cache'.remember _ own).seen.get? id
        rw [cache.get?_remember, cache'.get?_remember, h.lifetime_eq, h.seen_eq]
  | forget own =>
      refine ⟨rfl, h.lifetime_eq, ?_⟩
      show (cache.forget own).seen.get? id = (cache'.forget own).seen.get? id
      rw [cache.get?_forget, cache'.get?_forget, h.seen_eq]
  | send http => exact ⟨rfl, h⟩
  | sleep d => exact ⟨rfl, h⟩

/-- A call goes the same way with either of them. -/
theorem Alike.visit {cache' : IgnoreCache} {v : Visit} (h : Alike v.call.id cache cache') :
    v.traffic c cache = v.traffic c cache' ∧ v.outcome c cache = v.outcome c cache' ∧
      Alike v.call.id (v.after c cache) (v.after c cache') := by
  have hconcerns := exchange_concerns c v.call
  have hstep : ∀ k k' step, Concerns v.call.id step → Alike v.call.id k k' →
      (v.moment.answer k step).1 = (v.moment.answer k' step).1 ∧
        Alike v.call.id (v.moment.answer k step).2 (v.moment.answer k' step).2 :=
    fun _ _ step hstep h => h.answer step hstep
  obtain ⟨houtcome, hafter⟩ := hconcerns.simulates hstep h
  exact ⟨congrArg HostAgent.traffic (hconcerns.same_history hstep h), houtcome, hafter⟩

theorem event?_id {v : Visit} {t : List Traffic} {e : Event} (h : v.event? t = some e) :
    e.id = v.call.id := by
  obtain ⟨call, m⟩ := v
  cases call with
  | isIgnored own =>
      simp only [Visit.event?] at h
      split at h
      · cases h
        rfl
      · cases h
  | remove own =>
      cases h
      rfl
  | invalidate own =>
      cases h
      rfl

theorem event?_filter (v : Visit) (t : List Traffic) (id : String) :
    (v.event? t).filter (·.id = id) = if v.call.id = id then v.event? t else none := by
  cases he : v.event? t with
  | none => simp
  | some e =>
      rw [← event?_id he]
      by_cases hid : e.id = id <;> simp [Option.filter, hid]

theorem cacheAfter_snoc (past : List Visit) (v : Visit) :
    cacheAfter c lifetime (past ++ [v]) = v.after c (cacheAfter c lifetime past) :=
  List.foldl_append

/-- Calls about other containers may as well not have been made. -/
theorem remembered_alone (c : CentralClient) (lifetime : Duration) (past : List Visit)
    (id : String) : Alike id (cacheAfter c lifetime past)
      (cacheAfter c lifetime (past.filter (·.call.id = id))) := by
  induction past using List.reverseRecOn with
  | nil => exact ⟨rfl, rfl⟩
  | append_singleton past v ih =>
      rw [List.filter_append, cacheAfter_snoc]
      by_cases hid : v.call.id = id
      · subst hid
        have hkept : [v].filter (·.call.id = v.call.id) = [v] := by simp
        rw [hkept, cacheAfter_snoc]
        exact ih.visit.2.2
      · have hdropped : [v].filter (·.call.id = id) = [] := by simp [hid]
        rw [hdropped, List.append_nil]
        obtain ⟨hlifetime, hseen⟩ := after_frame c (cacheAfter c lifetime past) v
        exact ⟨hlifetime.trans ih.lifetime_eq, (hseen id (Ne.symm hid)).trans ih.seen_eq⟩

theorem events_snoc (past : List Visit) (v : Visit) :
    events c cache (past ++ [v]) =
      events c cache past ++
        (v.event? (v.traffic c (past.foldl (Visit.after c) cache))).toList := by
  induction past generalizing cache with
  | nil => simp [events]
  | cons w past ih => simp [events, ih]

theorem lastEvent_append (es : List Event) (e : Option Event) :
    lastEvent id (es ++ e.toList) = (e.filter (·.id = id)).or (lastEvent id es) := by
  cases e with
  | none => simp [lastEvent]
  | some e => by_cases h : e.id = id <;> simp [lastEvent, Option.filter, h]

theorem cacheAfter_lifetime (c : CentralClient) (lifetime : Duration) (past : List Visit) :
    (cacheAfter c lifetime past).lifetime = lifetime := by
  induction past using List.reverseRecOn with
  | nil => rfl
  | append_singleton past v ih => rw [cacheAfter_snoc, (after_frame c _ v).1, ih]

/-- What the cache holds about a container agrees with the last event about it: an answer of 404 is
held, or it was too old at one of the instants; and nothing else is held. -/
inductive Recalls (lifetime : Duration) (instants : List Duration) (id : String) :
    Option Event → Option Duration → Prop
  | held (instant : Duration) :
      lifetime ≠ .zero → Recalls lifetime instants id (some (.absent id instant)) (some instant)
  | expired (instant : Duration) {s : Duration} :
      s ∈ instants → ¬ s.since instant < lifetime →
      Recalls lifetime instants id (some (.absent id instant)) none
  | nothing {e : Option Event} :
      (∀ instant, e ≠ some (.absent id instant)) → Recalls lifetime instants id e none

theorem Recalls.later {instants more : List Duration} {e : Option Event} {seen : Option Duration}
    (h : Recalls lifetime instants id e seen) : Recalls lifetime (instants ++ more) id e seen := by
  cases h with
  | held instant hzero => exact .held instant hzero
  | expired instant hmem hold => exact .expired instant (List.mem_append_left _ hmem) hold
  | nothing hnone => exact .nothing hnone

/-- A question that was sent is an event if the reply to it is 404. -/
theorem event?_sent {m : Moment} {http : HttpRequest}
    (hhttp : (ContainerRequest.isIgnored id).http? c = some http) (reply : HttpReply) :
    (question id m).event? [.sent http reply] =
      if reply.tells 404 then some (.absent id m.ended) else none := by
  have hhead : http.method = .head := ContainerRequest.http?_method hhttp
  simp [Visit.event?, replies_sent, hhead]

/-- One more question about the same container. -/
theorem Recalls.asked {m : Moment} {instants : List Duration} {last : Option Event}
    (hlifetime : cache.lifetime = lifetime)
    (h : Recalls lifetime instants id last (cache.seen.get? id)) :
    Recalls lifetime (instants ++ [m.began, m.ended]) id
      (((question id m).event? ((question id m).traffic c cache)).or last)
      (((question id m).after c cache).seen.get? id) := by
  have hanswered := question_answered c cache id m
  generalize (question id m).traffic c cache = t, (question id m).outcome c cache = o,
    (question id m).after c cache = cache' at hanswered ⊢
  cases hanswered with
  | known _ => exact h.later
  | unsent _ _ _ => exact h.later
  | listed hknown hhttp hsuccess =>
      rw [event?_sent hhttp, HttpReply.tells_eq_false hsuccess rfl, cache.get?_forget, if_pos rfl]
      rw [IgnoreCache.isKnown, hlifetime] at hknown
      generalize cache.seen.get? id = seen at h hknown
      cases h with
      | held instant _ =>
          -- It was not known when the call began, so it was too old by then.
          exact .expired instant (s := m.began) (by simp) (of_decide_eq_false hknown)
      | expired instant hmem hold =>
          exact .expired instant (List.mem_append_left _ hmem) hold
      | nothing hnone => exact .nothing hnone
  | absent hknown hhttp h404 =>
      rw [event?_sent hhttp, if_pos h404, cache.get?_remember, hlifetime]
      by_cases hzero : lifetime = .zero
      · have hseen : cache.seen.get? id = none := by
          generalize cache.seen.get? id = seen at h
          cases h with
          | held _ hpositive => exact absurd hzero hpositive
          | expired _ _ _ => rfl
          | nothing _ => rfl
        rw [if_neg (fun hboth => hboth.1 hzero), hseen]
        refine .expired m.ended (s := m.ended) (by simp) ?_
        rw [hzero]
        exact Nat.not_lt_zero _
      · rw [if_pos ⟨hzero, rfl⟩]
        exact .held m.ended hzero
  | refused _ _ hhttp _ h404 =>
      rw [event?_sent hhttp, h404]
      exact h.later

theorem recalls (c : CentralClient) (lifetime : Duration) (past : List Visit) (id : String) :
    Recalls lifetime (past.flatMap Visit.instants) id
      (lastEvent id (events c (.empty lifetime) past))
      ((cacheAfter c lifetime past).seen.get? id) := by
  induction past using List.reverseRecOn with
  | nil =>
      refine .nothing fun _ h => ?_
      cases h
  | append_singleton past v ih =>
      have hlifetime := cacheAfter_lifetime c lifetime past
      rw [events_snoc, lastEvent_append, cacheAfter_snoc, List.flatMap_append,
        List.flatMap_singleton]
      show Recalls _ _ _ ((Option.filter _ (v.event? (v.traffic c (cacheAfter c lifetime past)))).or
        _) _
      rw [event?_filter]
      by_cases hid : v.call.id = id
      · rw [if_pos hid]
        obtain ⟨call, m⟩ := v
        cases call with
        | isIgnored own =>
            obtain rfl : own = id := hid
            exact ih.asked hlifetime
        | remove own =>
            obtain rfl : own = id := hid
            rw [after_cleared (.inl rfl), IgnoreCache.get?_forget, if_pos rfl]
            exact .nothing fun _ h => Event.noConfusion (Option.some.inj h)
        | invalidate own =>
            obtain rfl : own = id := hid
            rw [after_cleared (.inr rfl), IgnoreCache.get?_forget, if_pos rfl]
            exact .nothing fun _ h => Event.noConfusion (Option.some.inj h)
      · rw [if_neg hid, (after_frame c _ v).2 id (Ne.symm hid)]
        exact ih.later

/-- What is known without the server is what is fresh. -/
theorem isKnown_iff_fresh {past : List Visit} {now : Duration}
    (hclock : ∀ s ∈ past.flatMap Visit.instants, s.nanos ≤ now.nanos) :
    (cacheAfter c lifetime past).isKnown now id = true ↔ Fresh c lifetime past id now := by
  have hrecalls := recalls c lifetime past id
  rw [Fresh, IgnoreCache.isKnown, cacheAfter_lifetime]
  generalize lastEvent id (events c (.empty lifetime) past) = last,
    (cacheAfter c lifetime past).seen.get? id = seen at hrecalls ⊢
  cases hrecalls with
  | held instant hzero => simp [hzero]
  | expired instant hmem hold =>
      refine iff_of_false Bool.false_ne_true ?_
      rintro ⟨-, instant', heq, hyoung⟩
      cases heq
      have hs := hclock _ hmem
      have hage : ¬ (Duration.nanos _ - instant.nanos) < lifetime.nanos := hold
      have hnow : now.nanos - instant.nanos < lifetime.nanos := hyoung
      omega
  | nothing hnone =>
      refine iff_of_false Bool.false_ne_true ?_
      rintro ⟨-, instant', heq, -⟩
      exact hnone instant' heq

/-- The question whether a container is ignored, after calls one after another, whatever their ids
and whatever the server replied. It sends nothing just if the lifetime is positive and the last
event about the container is an answer of 404 whose age is below the lifetime, a client that can
send nothing at all aside; and then the container is not ignored. That it is ignored is said only by
a reply of success to the request that this question sent. Whatever is replied to a deletion,
nothing is known after it; and calls about other containers may as well not have been made. -/
theorem isIgnored_remembers (c : CentralClient) (lifetime : Duration) (past : List Visit)
    (id : String) (m : Moment) (hclock : Chronological (past ++ [question id m])) :
    let cache := cacheAfter c lifetime past
    let alone := cacheAfter c lifetime (past.filter (·.call.id = id))
    ((question id m).traffic c cache = [] ↔
      Fresh c lifetime past id m.began ∨ ¬ c.CanSend) ∧
    (Fresh c lifetime past id m.began → (question id m).outcome c cache = .ok false) ∧
    ((question id m).outcome c cache = .ok true ↔
      ∃ http : HttpRequest, http.method = .head ∧
        (ContainerRequest.isIgnored id).http? c = some http ∧
        (question id m).traffic c cache = [.sent http m.reply] ∧ m.reply.succeeds = true) ∧
    (∀ v : Visit, v.call = .remove id ∨ v.call = .invalidate id →
      ∀ later, (v.after c cache).isKnown later id = false) ∧
    (question id m).traffic c cache = (question id m).traffic c alone ∧
    (question id m).outcome c cache = (question id m).outcome c alone := by
  intro cache alone
  have hfresh : cache.isKnown m.began id = true ↔ Fresh c lifetime past id m.began := by
    apply isKnown_iff_fresh
    intro s hs
    rw [Chronological, List.flatMap_append, List.pairwise_append] at hclock
    exact hclock.2.2 s hs m.began (by simp [Visit.instants])
  have halike : Alike id cache alone := remembered_alone c lifetime past id
  obtain ⟨hsame, hsame', -⟩ := halike.visit (v := question id m) (c := c)
  have hanswered := question_answered c cache id m
  refine ⟨?_, ?_, hanswered.ok_true_iff, ?_, hsame, hsame'⟩
  · rw [← hfresh]
    exact hanswered.traffic_eq_nil_iff
  · intro h
    exact hanswered.ok_of_known (hfresh.2 h)
  · intro v hv later
    rw [after_cleared hv, IgnoreCache.isKnown_forget]

end Histories

/-! ## The age of an answer

A container is not ignored, and the entry of another one cannot be cleared. With a lifetime of 60,
the answer still counts at the age of 59, and no more at the age of 60. -/

def twoVisits : List Visit :=
  [⟨.isIgnored "x", ⟨⟨0⟩, ⟨1⟩, some ⟨404, ""⟩⟩⟩, ⟨.remove "y", ⟨⟨2⟩, ⟨3⟩, none⟩⟩]

theorem isIgnored_remembers_twoVisits :
    let cache := cacheAfter plainSession.client ⟨60⟩ twoVisits
    let early : Moment := ⟨⟨60⟩, ⟨60⟩, none⟩
    let late : Moment := ⟨⟨61⟩, ⟨61⟩, none⟩
    Chronological (twoVisits ++ [question "x" early]) ∧
    Fresh plainSession.client ⟨60⟩ twoVisits "x" early.began ∧
    (question "x" early).traffic plainSession.client cache = [] ∧
    (question "x" early).outcome plainSession.client cache = .ok false ∧
    Chronological (twoVisits ++ [question "x" late]) ∧
    plainSession.client.CanSend ∧
    (question "x" late).traffic plainSession.client cache ≠ [] := by
  intro cache early late
  have hearly : Chronological (twoVisits ++ [question "x" early]) := by decide
  have hlate : Chronological (twoVisits ++ [question "x" late]) := by decide
  have hlast : lastEvent "x" (events plainSession.client (.empty ⟨60⟩) twoVisits) =
      some (.absent "x" ⟨1⟩) := by decide +kernel
  have hfresh : Fresh plainSession.client ⟨60⟩ twoVisits "x" early.began :=
    ⟨by decide, ⟨1⟩, hlast, by decide⟩
  have hsend : plainSession.client.CanSend := ⟨.inl rfl, ⟨_, rfl⟩, rfl⟩
  have hstale : ¬ Fresh plainSession.client ⟨60⟩ twoVisits "x" late.began := by
    rintro ⟨-, instant, hinstant, hage⟩
    rw [hlast] at hinstant
    cases hinstant
    exact absurd hage (by decide)
  obtain ⟨hsilent, hfalse, -⟩ :=
    isIgnored_remembers plainSession.client ⟨60⟩ twoVisits "x" early hearly
  obtain ⟨hasked, -⟩ := isIgnored_remembers plainSession.client ⟨60⟩ twoVisits "x" late hlate
  refine ⟨hearly, hfresh, hsilent.2 (.inl hfresh), hfalse hfresh, hlate, hsend, fun hnone => ?_⟩
  rcases hasked.1 hnone with h | h
  · exact hstale h
  · exact h hsend

end IgnoreList

end HostAgent
