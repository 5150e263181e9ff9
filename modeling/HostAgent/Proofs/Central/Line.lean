import HostAgent.Proofs.Central.Sending

/-!
# Calls to a server that keeps its contract

A line to a server: what the server holds, what is known about its ignore list,
and the time. When nothing is remembered about the ignore list, a call to a
server that keeps its contract comes out as the server in memory answers it, and
leaves behind what that leaves behind. The way there does not matter any more:
which requests were sent, and which status the server chose among those allowed.

## Main results

* `Line.sync_brings`: a record is created or updated unless its container is ignored.
* `Line.removeIgnored_brings`, `Line.delete_brings`: what is removed is gone.
* `Line.listIgnored_brings`: the entries of the ignore list, in some order.
-/

namespace HostAgent

/-- A line to a server. -/
structure Line {client : CentralClient} {handles : ContainerRequest → Prop}
    (srv : CentralServer client handles) where
  server : srv.State
  cache : IgnoreCache
  now : Duration

namespace Line

variable {α β : Type} {session : CentralSession} {handles : ContainerRequest → Prop}
  {srv : CentralServer session.client handles}

/-- What the server holds. -/
def central (l : Line srv) : CentralState := srv.view l.server

/-- Nothing is ever remembered about the ignore list. -/
def Uncached (l : Line srv) : Prop := l.cache.lifetime = .zero

def answer (l : Line srv) : (step : CentralStep) → step.Reply × Line srv
  | .send http =>
    (some (srv.respond l.server http).1, { l with server := (srv.respond l.server http).2 })
  | .sleep d => ((), { l with now := l.now + d })
  | .isKnown id => (l.cache.isKnown l.now id, l)
  | .remember id => ((), { l with cache := l.cache.remember l.now id })
  | .forget id => ((), { l with cache := l.cache.forget id })

/-- Make a call. -/
def run (l : Line srv) (e : Exchange α) : Except CentralError α × Line srv :=
  Program.run answer e.run l

/-- A call succeeds with a value and leaves this behind. -/
def Brings (l : Line srv) (e : Exchange α) (a : α) (s : CentralState) : Prop :=
  e.run.Brings answer l (.ok a) fun l' => l'.Uncached ∧ l'.central = s

theorem Brings.bind {l : Line srv} {e : Exchange α} {f : α → Exchange β} {a : α} {b : β}
    {s s' : CentralState} (he : l.Brings e a s)
    (hf : ∀ l' : Line srv, l'.Uncached → l'.central = s → l'.Brings (f a) b s') :
    l.Brings (e >>= f) b s' := by
  rw [Brings, Program.except_bind]
  refine Program.Brings.bind he ?_
  rintro l' ⟨hcache, hcentral⟩
  exact hf l' hcache hcentral

theorem Brings.outcome {l : Line srv} {e : Exchange α} {a : α} {s : CentralState}
    (he : l.Brings e a s) : l.Brings e.outcome (.ok a) s := by
  have hlift : e.outcome.run = e.run.bind fun r => .done (.ok r) := rfl
  rw [Brings, hlift]
  exact Program.Brings.bind he fun l' h => ⟨l', rfl, h⟩

theorem pure_brings {l : Line srv} (hcache : l.Uncached) (a : α) :
    l.Brings (pure a) a l.central := ⟨l, rfl, hcache, rfl⟩

/-! ## Single steps -/

theorem isKnown_brings {l : Line srv} (hcache : l.Uncached) (id : String) :
    l.Brings (Exchange.step (.isKnown id)) false l.central := by
  refine ⟨l, ?_, hcache, rfl⟩
  show (Except.ok (l.cache.isKnown l.now id), l) = _
  rw [l.cache.isKnown_of_zero hcache]

theorem remember_brings {l : Line srv} (hcache : l.Uncached) (id : String) :
    l.Brings (Exchange.step (.remember id)) () l.central := by
  have hsame : l.cache.remember l.now id = l.cache := by
    rw [IgnoreCache.remember]
    exact if_pos hcache
  refine ⟨l, ?_, hcache, rfl⟩
  show (Except.ok (), { l with cache := l.cache.remember l.now id }) = _
  rw [hsame]

theorem forget_brings {l : Line srv} (hcache : l.Uncached) (id : String) :
    l.Brings (Exchange.step (.forget id)) () l.central :=
  ⟨_, rfl, hcache, rfl⟩

/-- A request that the contract covers is served by it. -/
theorem request_brings {l : Line srv} (hcache : l.Uncached) {r : ContainerRequest}
    (hr : handles r) {e : Exchange α} {f : Url → HttpResponse → Except CentralError α}
    (he : ∀ url http, session.client.resolve r.path = .ok url →
      HttpRequest.create? r.method url session.client.token r.body = some http →
      e.run = .ask (.send http) (CentralClient.onReply (f url))) :
    ∃ url response l', l.run e = (f url response, l') ∧ l'.Uncached ∧
      Serves l.central response l'.central r := by
  obtain ⟨http, hhttp, hserves⟩ := srv.serves r hr
  obtain ⟨url, hurl, hcreate⟩ := (ContainerRequest.http?_eq_some_iff _ _ _).1 hhttp
  refine ⟨url, (srv.respond l.server http).1,
    { l with server := (srv.respond l.server http).2 }, ?_, hcache, hserves l.server⟩
  rw [run, he url http hurl hcreate]
  rfl

/-! ## Calls -/

open CentralSession CentralClient

/-- Whether a container is ignored is asked anew. -/
theorem isIgnored_brings {l : Line srv} (hcache : l.Uncached) {id : String}
    (hr : handles (.isIgnored id)) :
    l.Brings (isIgnored session.client id) (l.central.ignored.contains id) l.central := by
  refine (isKnown_brings hcache id).bind ?_
  intro l₁ hcache₁ hcentral₁
  obtain ⟨url, response, l₂, hrun, hcache₂, hsame, hstatus⟩ :=
    request_brings hcache₁ hr fun url http hurl hhttp => statusOf_run hurl hhttp
  have hstep : l₁.Brings (session.client.statusOf .head (ignoredPath id)) response.status
      l.central := ⟨l₂, hrun, hcache₂, hsame.trans hcentral₁⟩
  refine hstep.bind ?_
  intro l₃ hcache₃ hcentral₃
  rw [hcentral₁] at hstatus
  by_cases hid : id ∈ l.central.ignored
  · rw [if_pos hid] at hstatus
    have hsuccess : isSuccessStatus response.status = true := hstatus
    rw [if_pos hsuccess, List.contains_iff_mem.2 hid, ← hcentral₃]
    refine (forget_brings hcache₃ id).bind fun l₄ hcache₄ hcentral₄ => ?_
    rw [← hcentral₄]
    exact pure_brings hcache₄ true
  · rw [if_neg hid] at hstatus
    have hcontains : l.central.ignored.contains id = false := by
      simpa using hid
    rw [hstatus, if_neg (by decide), if_pos rfl, hcontains, ← hcentral₃]
    refine (remember_brings hcache₃ id).bind fun l₄ hcache₄ hcentral₄ => ?_
    rw [← hcentral₄]
    exact pure_brings hcache₄ false

theorem hasRecord_brings {l : Line srv} (hcache : l.Uncached) {id : String}
    (hr : handles (.hasRecord id)) :
    l.Brings (hasRecord session.client id) (l.central.records.contains id) l.central := by
  obtain ⟨url, response, l', hrun, hcache', hsame, hfound⟩ :=
    request_brings hcache hr fun url http hurl hhttp => statusOf_run hurl hhttp
  have hstep : l.Brings (session.client.statusOf .get (recordPath id)) response.status
      l.central := ⟨l', hrun, hcache', hsame⟩
  refine hstep.outcome.bind ?_
  intro l₁ hcache₁ hcentral₁
  have hanswer : l.central.records.contains id = isSuccessStatus response.status := hfound.symm
  rw [hanswer, ← hcentral₁]
  exact pure_brings hcache₁ _

theorem update_brings {l : Line srv} (hcache : l.Uncached) {record : ContainerRecord}
    (hr : handles (.update record)) (hfound : l.central.records.contains record.id = true) :
    l.Brings (update session.client record) .updated (l.central.store record) := by
  obtain ⟨url, response, l', hrun, hcache', hserves⟩ :=
    request_brings hcache hr fun url http hurl hhttp => put_run hurl hhttp
  rcases hserves with ⟨hsuccess, hstored⟩ | ⟨habsent, _, _⟩
  · have hput : l.Brings (session.client.put .put (recordPath record.id) record.toJson) ()
        (l.central.store record) := by
      refine ⟨l', ?_, hcache', hstored⟩
      have hok : (successful .put url response).bind (fun _ => .ok ()) = .ok () := by
        rw [successful, if_pos hsuccess]
        rfl
      rw [← hok]
      exact hrun
    refine hput.bind ?_
    intro l₁ hcache₁ hcentral₁
    rw [← hcentral₁]
    exact pure_brings hcache₁ _
  · rw [hfound] at habsent
    cases habsent

theorem create_brings {l : Line srv} (hcache : l.Uncached) {record : ContainerRecord}
    (hr : handles (.create record)) (habsent : l.central.records.contains record.id = false) :
    l.Brings (session.create record) .created (l.central.store record) := by
  obtain ⟨url, response, l', hrun, hcache', hserves⟩ :=
    request_brings hcache hr fun url http hurl hhttp => submit_run hurl hhttp
  rcases hserves with ⟨hsuccess, hstored⟩ | ⟨hfound, _, _⟩
  · have hpost : l.Brings (session.client.submit .post "containers" record.toJson) response
        (l.central.store record) := ⟨l', hrun, hcache', hstored⟩
    refine hpost.bind ?_
    intro l₁ hcache₁ hcentral₁
    rw [if_pos hsuccess, ← hcentral₁]
    exact pure_brings hcache₁ _
  · rw [habsent] at hfound
    cases hfound

/-- A record is created or updated unless its container is ignored. -/
theorem sync_brings {l : Line srv} (hcache : l.Uncached) {record : ContainerRecord}
    (hr : ∀ r ∈ ContainerRequest.ofSync record, handles r) {outcome : SyncOutcome}
    {s : CentralState} (h : l.central.answer (.sync record) = (.ok outcome, s)) :
    l.Brings (session.exchange (.sync record)) outcome s := by
  have hignored : handles (.isIgnored record.id) := hr _ (by simp)
  have hhas : handles (.hasRecord record.id) := hr _ (by simp)
  have hupdate : handles (.update record) := hr _ (by simp)
  have hcreate : handles (.create record) := hr _ (by simp)
  refine (isIgnored_brings hcache hignored).bind ?_
  intro l₁ hcache₁ hcentral₁
  simp only [CentralState.answer, ← hcentral₁] at h ⊢
  split at h
  · rename_i hmem
    cases h
    rw [if_pos hmem]
    exact pure_brings hcache₁ _
  · rename_i hmem
    cases h
    rw [if_neg hmem]
    refine (hasRecord_brings hcache₁ hhas).bind ?_
    intro l₂ hcache₂ hcentral₂
    rw [← hcentral₂]
    cases hfound : l₂.central.records.contains record.id with
    | true => exact update_brings hcache₂ hupdate hfound
    | false => exact create_brings hcache₂ hcreate hfound

/-- What is deleted is gone, and so it is if there was nothing. -/
theorem deleted_brings {l : Line srv} (hcache : l.Uncached) {r : ContainerRequest}
    (hr : handles r) (hmethod : r.method = .delete) (hbody : r.body = none) {s : CentralState}
    (hserves : ∀ response s', Serves l.central response s' r →
      s' = s ∧ (response.status = 404 ∨ response.isSuccess = true)) :
    l.Brings (session.client.delete r.path) () s := by
  obtain ⟨url, response, l', hrun, hcache', hserved⟩ :=
    request_brings hcache hr fun url http hurl hhttp =>
      delete_run hurl (by rw [← hmethod, ← hbody]; exact hhttp)
  obtain ⟨hcentral, hstatus⟩ := hserves response l'.central hserved
  refine ⟨l', ?_, hcache', hcentral⟩
  have hok : deleted url response = .ok () := by
    by_cases h404 : response.status = 404
    · exact if_pos h404
    · rw [deleted, if_neg h404, successful, if_pos (hstatus.resolve_left h404)]
      rfl
  rw [← hok]
  exact hrun

theorem delete_brings {l : Line srv} (hcache : l.Uncached) {id : String}
    (hr : handles (.delete id)) :
    l.Brings (session.exchange (.delete id)) () (l.central.drop id) :=
  deleted_brings hcache hr rfl rfl fun _ _ h => h

theorem removeIgnored_brings {l : Line srv} (hcache : l.Uncached) {id : String}
    (hr : handles (.unignore id)) :
    l.Brings (session.exchange (.removeIgnored id)) () (l.central.unignore id) := by
  refine (forget_brings hcache id).bind ?_
  intro l₁ hcache₁ hcentral₁
  rw [← hcentral₁]
  exact deleted_brings hcache₁ hr rfl rfl fun _ _ h => h

/-- The entries of the ignore list come in some order. -/
theorem listIgnored_brings {l : Line srv} (hcache : l.Uncached) (hr : handles .listIgnored) :
    ∃ entries, (entries.map IgnoreEntry.containerId).Perm l.central.ignored ∧
      l.Brings (session.exchange .listIgnored) entries l.central := by
  obtain ⟨url, response, l', hrun, hcache', hsame, hsuccess, entries, hdecode, hperm⟩ :=
    request_brings hcache hr fun url http hurl hhttp =>
      get_run (.list IgnoreEntry.decoder) hurl hhttp
  refine ⟨entries, hperm, l', ?_, hcache', hsame⟩
  have hread : ((successful .get url response).bind fun response =>
      (Json.decodeText (.list IgnoreEntry.decoder) response.body).mapError fun _ =>
        CentralError.transport) = .ok entries := by
    rw [successful, if_pos hsuccess]
    show (Json.decodeText (.list IgnoreEntry.decoder) response.body).mapError _ = _
    rw [hdecode]
    rfl
  rw [← hread]
  exact hrun

end Line

end HostAgent
