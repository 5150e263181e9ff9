import HostAgent.Proofs.Central.Sending
import HostAgent.Proofs.Net.Joining

/-!
# Where requests go

The ids of containers, tasks and hosts come from outside and may be any text.
They become part of a path, and each such path is led by a word of its own. So
whatever the id, the request goes to the scheme, the host and the port of the
base address, and what it carries to authorize it is the token of the settings
alone.

## Main results

* `resolve_origin`: a path led by a word stays with the base address.
* `exchange_homing`: what every request of a call has in common.
* `request_stays_home`: whatever the call and whatever is replied, each request goes to the server
  of the settings, and carries their token.
-/

namespace HostAgent

open Program (Asking)

namespace Url

def host? (u : Url) : Option String := u.authority.map Authority.host

/-- The port, if it is not the usual one of the scheme. -/
def port? (u : Url) : Option Nat := u.authority.bind Authority.port

/-- Two addresses of one server. -/
structure SameOrigin (u v : Url) : Prop where
  scheme : u.scheme = v.scheme
  host : u.host? = v.host?
  port : u.port? = v.port?

/-- The address names no user. -/
def IsAnonymous (u : Url) : Prop := ∀ a ∈ u.authority, a.username = "" ∧ a.password = none

end Url

/-- The header of a token. -/
def bearer (token : Option String) : List String := token.toList.map ("Bearer " ++ ·)

variable {α : Type} {c : CentralClient} {path : String} {method : HttpMethod} {body : Option Json}
  {url : Url} {http : HttpRequest}

/-- The request goes to the server of a base address, and only the token of the client goes
with it. -/
structure HttpRequest.Homing (c : CentralClient) (http : HttpRequest) : Prop where
  origin : http.url.SameOrigin c.base
  authorization : http.authorization = bearer c.token

/-- A step that sends nothing, or a request with this property. -/
def CentralStep.Sending (P : HttpRequest → Prop) : CentralStep → Prop
  | .send http => P http
  | _ => True

/-! ## Addresses -/

/-- The base is an address of the web, without user. -/
structure CentralClient.Plain (c : CentralClient) : Prop where
  scheme : c.base.scheme = "http" ∨ c.base.scheme = "https"
  anonymous : c.base.IsAnonymous

namespace CentralClient

/-- A path led by a word stays with the base address. -/
theorem resolve_origin (hc : c.Plain) (hled : Url.Led path.toList)
    (hurl : c.resolve path = .ok url) :
    url.scheme = c.base.scheme ∧ url.authority = c.base.authority := by
  have hscheme : c.base.scheme ≠ "file" := by
    rcases hc.scheme with h | h <;> rw [h] <;> decide
  rw [resolve, Url.dropLeading_of_led hled] at hurl
  cases hjoin : c.base.join path with
  | error e =>
      rw [hjoin] at hurl
      cases hurl
  | ok joined =>
      rw [hjoin] at hurl
      obtain rfl : joined = url := Except.ok.inj hurl
      rw [Url.join_of_led hled hscheme hjoin]
      exact ⟨rfl, rfl⟩

/-- A request to an address with the scheme and the authority of the base is homing. -/
theorem create_homing (hc : c.Plain)
    (hurl : url.scheme = c.base.scheme ∧ url.authority = c.base.authority)
    (hhttp : HttpRequest.create? method url c.token body = some http) : http.Homing c := by
  obtain ⟨hscheme, hauthority⟩ := hurl
  have huser : HttpRequest.user? url = none := by
    rw [HttpRequest.user?, hauthority]
    cases ha : c.base.authority with
    | none => rfl
    | some a =>
        obtain ⟨hname, hpassword⟩ := hc.anonymous a ha
        simp [hname, hpassword]
  unfold HttpRequest.create? at hhttp
  rw [huser] at hhttp
  split at hhttp
  · obtain rfl := Option.some.inj hhttp
    refine { origin := ⟨hscheme, ?_, ?_⟩, authorization := ?_ }
    · rw [Url.host?, Url.host?, HttpRequest.withoutUser, hauthority, Option.map_map]
      rfl
    · rw [Url.port?, Url.port?, HttpRequest.withoutUser, hauthority, Option.bind_map]
      rfl
    · cases c.token <;> rfl
  · cases hhttp

/-! ## Forms of exchange -/

open Exchange (asking_pure asking_throw)

/-- An exchange that sends nothing but homing requests. -/
abbrev Homes (c : CentralClient) (e : Exchange α) : Prop :=
  e.run.Asking (CentralStep.Sending (HttpRequest.Homing c))

theorem send_homes (hc : c.Plain)
    (hurl : url.scheme = c.base.scheme ∧ url.authority = c.base.authority) :
    c.Homes (c.send method url body) :=
  send_asking fun _ hhttp => create_homing hc hurl hhttp

theorem sendSuccessfully_homes (hc : c.Plain)
    (hurl : url.scheme = c.base.scheme ∧ url.authority = c.base.authority) :
    c.Homes (c.sendSuccessfully method url body) := by
  refine Asking.except_bind (send_homes hc hurl) ?_
  intro response
  split
  · exact asking_pure _
  · exact asking_throw _

theorem read_homes (d : Json.Decoder α) (response : HttpResponse) : c.Homes (read d response) := by
  unfold read
  split
  · exact asking_pure _
  · exact asking_throw _

theorem get_homes (hc : c.Plain) (d : Json.Decoder α) (hled : Url.Led path.toList) :
    c.Homes (c.get d path) :=
  resolve_asking fun _ hurl =>
    Asking.except_bind (sendSuccessfully_homes hc (resolve_origin hc hled hurl)) (read_homes d)

/-- More pairs in the query change neither scheme nor authority. -/
theorem getWith_homes (hc : c.Plain) (d : Json.Decoder α) (hled : Url.Led path.toList)
    (pairs : List (String × String)) : c.Homes (c.getWith d path pairs) := by
  refine resolve_asking fun url hurl => ?_
  obtain ⟨hscheme, hauthority⟩ := resolve_origin hc hled hurl
  exact Asking.except_bind (sendSuccessfully_homes hc ⟨hscheme, hauthority⟩) (read_homes d)

theorem submit_homes (hc : c.Plain) (hled : Url.Led path.toList) (value : Json) :
    c.Homes (c.submit method path value) :=
  resolve_asking fun _ hurl => send_homes hc (resolve_origin hc hled hurl)

theorem put_homes (hc : c.Plain) (hled : Url.Led path.toList) (value : Json) :
    c.Homes (c.put method path value) :=
  resolve_asking fun _ hurl =>
    Asking.except_bind (sendSuccessfully_homes hc (resolve_origin hc hled hurl)) fun _ =>
      asking_pure _

end CentralClient

/-! ## Calls -/

/-- A path of a word, an id and a tail is led by the word, whatever the id. -/
theorem led_path {front : String} (hfront : Url.Led front.toList) (hslash : '/' ∈ front.toList)
    (rest : String) : Url.Led (front ++ rest).toList := by
  rw [String.toList_append]
  exact Url.led_append hfront hslash _

theorem ContainerRequest.path_led (r : ContainerRequest) : Url.Led r.path.toList := by
  have hfront : Url.Led "containers/".toList := by decide
  have hslash : '/' ∈ "containers/".toList := by decide
  have hrecord : ∀ id, Url.Led (CentralSession.recordPath id).toList :=
    led_path hfront hslash
  have hignored : ∀ id, Url.Led (CentralSession.ignoredPath id).toList := by
    intro id
    rw [CentralSession.ignoredPath, String.append_assoc]
    exact led_path hfront hslash _
  cases r with
  | isIgnored id => exact hignored id
  | unignore id => exact hignored id
  | listIgnored => exact (by decide : Url.Led "containers/ignored".toList)
  | hasRecord id => exact hrecord id
  | update record => exact hrecord record.id
  | create record => exact (by decide : Url.Led "containers".toList)
  | delete id => exact hrecord id

/-- A request about a container is homing. -/
theorem CentralClient.sends_homing (hc : c.Plain) {e : Exchange α}
    (he : e.run.Asking (Sends c fun _ => True)) : c.Homes e := by
  refine he.mono fun s hs => ?_
  cases s with
  | send http =>
      obtain ⟨r, -, hr⟩ := hs
      obtain ⟨url, hurl, hhttp⟩ := (ContainerRequest.http?_eq_some_iff c r http).1 hr
      exact create_homing hc (resolve_origin hc r.path_led hurl) hhttp
  | _ => trivial

namespace CentralSession

open CentralClient

/-- Whatever the call, nothing is sent but homing requests. -/
theorem exchange_homing (s : CentralSession) (hc : s.client.Plain) (call : CentralCall) :
    s.client.Homes (s.exchange call) := by
  have hhosts : ∀ rest, Url.Led ("hosts/" ++ rest).toList := led_path (by decide) (by decide)
  have htasks : ∀ rest, Url.Led ("tasks/" ++ rest).toList := led_path (by decide) (by decide)
  cases call with
  | checkAuth =>
      exact Asking.except_bind (get_homes hc _ (by decide)) fun _ => Exchange.asking_pure _
  | registerHost host =>
      refine Asking.except_bind (submit_homes hc (by decide) _) fun response => ?_
      split
      · exact Exchange.asking_pure _
      · exact refuse_asking _ _
  | sync record => exact sends_homing hc (s.sync_sends record fun _ _ => trivial)
  | delete id => exact sends_homing hc (delete_sends id trivial)
  | isIgnored id => exact sends_homing hc (isIgnored_sends id trivial)
  | removeIgnored id => exact sends_homing hc (removeIgnored_sends id trivial)
  | listIgnored => exact get_homes hc _ (by decide)
  | pushMetrics hostId metrics =>
      exact put_homes hc (String.append_assoc .. ▸ hhosts (hostId ++ "/metrics")) _
  | pendingTasks hostId => exact getWith_homes hc _ (by decide) _
  | report taskId result =>
      exact put_homes hc (String.append_assoc .. ▸ htasks (taskId ++ "/result")) _

/-- Let the base address be one of the web, without user. Whatever texts a call is about, and
whatever is replied along it, each request goes to the scheme, the host and the port of the base
address, with the token of the settings if there is one that is not empty, and with no other. -/
theorem request_stays_home {baseUrl : String} {token : Option String} {s : CentralSession}
    (hclient : CentralClient.create baseUrl token = .ok s.client)
    (hscheme : s.client.base.scheme = "http" ∨ s.client.base.scheme = "https")
    (hanonymous : s.client.base.IsAnonymous) {call : CentralCall}
    {past : List (Asked CentralStep.Reply)} {http : HttpRequest}
    {k : Option HttpResponse → Program CentralStep.Reply (Except CentralError call.Result)}
    (hreach : (s.exchange call).run.Reaches past (.ask (.send http) k)) :
    http.url.SameOrigin s.client.base ∧
      (∀ t, token = some t → t ≠ "" → http.authorization = ["Bearer " ++ t]) ∧
      (token = none ∨ token = some "" → http.authorization = []) := by
  have htoken : s.client.token = Text.nonEmpty? token := by
    unfold CentralClient.create at hclient
    split at hclient
    · rw [← Except.ok.inj hclient]
    · cases hclient
  have hasking := s.exchange_homing ⟨hscheme, hanonymous⟩ call
  have hhoming : http.Homing s.client := by
    obtain ⟨-, hnext⟩ := hasking.of_reaches hreach
    cases hnext with
    | ask h _ => exact h
  refine ⟨hhoming.origin, ?_, ?_⟩
  · rintro t rfl ht
    rw [hhoming.authorization, htoken]
    simp [bearer, Text.nonEmpty?, ht]
  · intro hnone
    rw [hhoming.authorization, htoken]
    rcases hnone with rfl | rfl <;> rfl

/-- An id that looks like the address of another server is but a path. -/
theorem delete_stays_home :
    let session : CentralSession := ⟨⟨centralUrl [""], some "secret"⟩, 3, .ofMillis 200⟩
    let call : CentralCall := .delete "//evil\\..\\x:y?q#z"
    let url : Url := { centralUrl ["containers", "", "", "x:y"] with
      query := some "q", fragment := some "z" }
    let http : HttpRequest := ⟨.delete, url, ["Bearer secret"], none⟩
    CentralClient.create " http://central" (some "secret") = .ok session.client ∧
      session.client.base.IsAnonymous ∧
      (∃ k, (session.exchange call).run.Reaches [] (.ask (.send http) k)) ∧
      http.url.SameOrigin session.client.base ∧ http.authorization = ["Bearer " ++ "secret"] := by
  intro session call url http
  have hclient : CentralClient.create " http://central" (some "secret") = .ok session.client := rfl
  have hanonymous : session.client.base.IsAnonymous := by
    rintro a ha
    cases ha
    exact ⟨rfl, rfl⟩
  have hurl : session.client.resolve (recordPath "//evil\\..\\x:y?q#z") = .ok url := rfl
  have hrun : (session.exchange call).run = .ask (.send http) (onReply (deleted url)) :=
    delete_run hurl rfl
  have hreach :
      (session.exchange call).run.Reaches [] (.ask (.send http) (onReply (deleted url))) := by
    rw [hrun]
    exact .here _
  have hhome := request_stays_home hclient (.inl rfl) hanonymous hreach
  exact ⟨hclient, hanonymous, ⟨_, hreach⟩, hhome.1, hhome.2.1 "secret" rfl (by decide)⟩

end CentralSession

end HostAgent
