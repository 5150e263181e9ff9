import HostAgent.Proofs.Central.Origin
import HostAgent.Proofs.Net.Spelling

/-!
# Which resource an id addresses

An id becomes a part of a path as it is. So it addresses a resource of its own
exactly if it can be a part of an address: it has no mark, no backslash and no
line break, no piece of it between slashes is one of dots, and, where it ends the
path, it does not end in a blank. Any other id means a place of another kind: `..`
is the base itself, and `a/../b` is the place of `b`. Among the ids that can be
parts of addresses, two have one address only if they are encoded alike, for
which one of them has to have a percent sign. The one resource beside the records
that a record can be taken for is the list of what is ignored, by the id of that
name.

## Main results

* `deletion_spells_iff`, `report_spells_iff`: which ids have a resource of their own.
* `ids_own_addresses`: such ids are told apart by the addresses of their requests.
-/

namespace HostAgent

variable {α : Type} {c : CentralClient} {s : CentralSession} {path : String} {method : HttpMethod}
  {url : Url} {http : HttpRequest}

/-- The exchange sends this request, and nothing more whatever the response. -/
def Exchange.Asks (e : Exchange α) (http : HttpRequest) : Prop :=
  ∃ f, e.run = .ask (.send http) (CentralClient.onReply f)

/-- An id as it stands in an address. -/
def spelled (id : String) : String := Percent.encode Url.pathExtra id.toList

/-! ## Requests of a path -/

namespace CentralClient

/-- The base of the addresses that requests have. -/
def publicBase (c : CentralClient) : Url := HttpRequest.withoutUser c.base

/-- The token can be sent, if there is one. -/
def HasSendableToken (c : CentralClient) : Prop := c.token.all HttpRequest.isHeaderText = true

/-- An exchange goes no further than its first error. -/
theorem bind_failed {β : Type} {e : Exchange α} {f : α → Exchange β} {err : CentralError}
    (h : e.run = .done (.error err)) : (e >>= f).run = .done (.error err) := by
  rw [Program.except_bind, h]
  rfl

theorem send_failed {body : Option Json}
    (h : HttpRequest.create? method url c.token body = none) :
    (c.send method url body).run = .done (.error .transport) := by
  simp only [send, h]
  rfl

/-- An exchange about one address sends the request to that address, if there is one. -/
theorem asks_iff {body : Option Json} {e : Exchange α}
    (hnone : ∀ err, c.resolve path = .error err → ∃ err, e.run = .done (.error err))
    (hfailed : ∀ url, c.resolve path = .ok url →
      HttpRequest.create? method url c.token body = none → ∃ err, e.run = .done (.error err))
    (hrun : ∀ url http, c.resolve path = .ok url →
      HttpRequest.create? method url c.token body = some http →
        ∃ f, e.run = .ask (.send http) (onReply f)) :
    e.Asks http ↔ ∃ url, c.resolve path = .ok url ∧
      HttpRequest.create? method url c.token body = some http := by
  constructor
  · rintro ⟨f, hf⟩
    have hgoes : ∀ err, e.run ≠ .done (.error err) := by
      intro err hdone
      rw [hdone] at hf
      cases hf
    cases hurl : c.resolve path with
    | error err =>
        obtain ⟨err, hdone⟩ := hnone err hurl
        exact absurd hdone (hgoes err)
    | ok url =>
        refine ⟨url, rfl, ?_⟩
        cases hhttp : HttpRequest.create? method url c.token body with
        | none =>
            obtain ⟨err, hdone⟩ := hfailed url hurl hhttp
            exact absurd hdone (hgoes err)
        | some sent =>
            obtain ⟨g, hg⟩ := hrun url sent hurl hhttp
            rw [hg] at hf
            have hsent := (Program.ask.inj hf).1
            rw [CentralStep.send.inj hsent]
  · rintro ⟨url, hurl, hhttp⟩
    exact hrun url http hurl hhttp

theorem delete_asks_iff : (c.delete path).Asks http ↔
    ∃ url, c.resolve path = .ok url ∧
      HttpRequest.create? .delete url c.token none = some http := by
  refine asks_iff (fun err hurl => ⟨err, ?_⟩) (fun url hurl hhttp => ⟨.transport, ?_⟩)
    fun url http hurl hhttp => ⟨_, delete_run hurl hhttp⟩
  · rw [CentralClient.delete, hurl]
    rfl
  · rw [CentralClient.delete, hurl, Exchange.ok_bind]
    exact bind_failed (send_failed hhttp)

theorem put_asks_iff {value : Json} : (c.put method path value).Asks http ↔
    ∃ url, c.resolve path = .ok url ∧
      HttpRequest.create? method url c.token (some value) = some http := by
  refine asks_iff (fun err hurl => ⟨err, ?_⟩) (fun url hurl hhttp => ⟨.transport, ?_⟩)
    fun url http hurl hhttp => ⟨_, put_run hurl hhttp⟩
  · rw [put, hurl]
    rfl
  · rw [put, hurl, Exchange.ok_bind]
    exact bind_failed (bind_failed (send_failed hhttp))

/-! ## Addresses of a path -/

theorem create?_url {body : Option Json} {token : Option String}
    (h : HttpRequest.create? method url token body = some http) :
    http.url = HttpRequest.withoutUser url := by
  unfold HttpRequest.create? at h
  split at h
  · rw [← Option.some.inj h]
  · cases h

/-- The base is an address of the web with a host. -/
structure Hosted (c : CentralClient) (port : Nat) : Prop where
  base : c.base.WebBase port
  authority : c.base.authority ≠ none
  scheme : c.base.scheme = "http" ∨ c.base.scheme = "https"

theorem hosted_of_create {baseUrl : String} {token : Option String}
    (h : CentralClient.create baseUrl token = .ok c)
    (hscheme : c.base.scheme = "http" ∨ c.base.scheme = "https") : ∃ port, c.Hosted port := by
  have hparse : Url.parse (closed (Text.trim baseUrl)) = .ok c.base := by
    unfold CentralClient.create at h
    split at h
    · rename_i base hbase
      rw [hbase, ← Except.ok.inj h]
    · cases h
  have hweb : ∃ port, Url.SchemeKind.of c.base.scheme = .web port := by
    rcases hscheme with h | h <;> rw [h] <;> exact ⟨_, rfl⟩
  obtain ⟨port, hport⟩ := hweb
  obtain ⟨hauthority, hbase⟩ := Url.of_parse hparse hport
  exact ⟨port, hbase, hauthority, hscheme⟩

/-- The address of a request spells out what the address of its path does. -/
theorem spells_withoutUser_iff {tail : String} (hauthority : url.authority = c.base.authority) :
    (HttpRequest.withoutUser url).Spells c.publicBase tail ↔ url.Spells c.base tail := by
  constructor
  · rintro ⟨hscheme, -, hpath, hquery, hfragment⟩
    exact ⟨hscheme, hauthority, hpath, hquery, hfragment⟩
  · rintro ⟨hscheme, hsame, hpath, hquery, hfragment⟩
    refine ⟨hscheme, ?_, hpath, hquery, hfragment⟩
    rw [publicBase, HttpRequest.withoutUser, HttpRequest.withoutUser, hsame]

variable {port : Nat} {word : String}

/-- A request to a path behind a word spells it out exactly if it is a part of an address. -/
theorem request_spells_iff (hc : c.Hosted port) (hword : Url.IsWord word) {rest : String}
    {body : Option Json} (hurl : c.resolve (word ++ "/" ++ rest) = .ok url)
    (hhttp : HttpRequest.create? method url c.token body = some http) :
    http.url.Spells c.publicBase ("/" ++ word ++ "/" ++ spelled rest) ↔
      Url.Own (.web port) rest.toList ∧ Url.EndsInText rest.toList := by
  obtain ⟨joined, hjoin, -, hauthority, hspells⟩ := Url.join_spells_iff hc.base hword rest
  rw [resolve, Url.dropLeading_of_led (hword.led_behind rest), hjoin] at hurl
  obtain rfl : joined = url := Except.ok.inj hurl
  rw [create?_url hhttp, spells_withoutUser_iff hauthority]
  exact hspells

/-- There is a request to each path behind a word. -/
theorem exists_request (hc : c.Hosted port) (htoken : c.HasSendableToken)
    (hword : Url.IsWord word) (rest : String) (method : HttpMethod) (body : Option Json) :
    ∃ http url, c.resolve (word ++ "/" ++ rest) = .ok url ∧
      HttpRequest.create? method url c.token body = some http := by
  obtain ⟨url, hjoin, hscheme, -, -⟩ := Url.join_spells_iff hc.base hword rest
  have hurl : c.resolve (word ++ "/" ++ rest) = .ok url := by
    rw [resolve, Url.dropLeading_of_led (hword.led_behind rest), hjoin]
    rfl
  have hsend : (url.scheme = "http" ∨ url.scheme = "https") ∧
      c.token.all HttpRequest.isHeaderText = true := ⟨hscheme ▸ hc.scheme, htoken⟩
  exact ⟨_, url, hurl, if_pos hsend⟩

theorem word_request_spells (hc : c.Hosted port) (hword : Url.IsWord word)
    {body : Option Json} (hurl : c.resolve word = .ok url)
    (hhttp : HttpRequest.create? method url c.token body = some http) :
    http.url.Spells c.publicBase ("/" ++ word) := by
  obtain ⟨joined, hjoin, hspells⟩ := Url.join_word hc.base hword
  rw [resolve, Url.dropLeading_of_led hword.led_self, hjoin] at hurl
  obtain rfl : joined = url := Except.ok.inj hurl
  rw [create?_url hhttp, spells_withoutUser_iff hspells.authority]
  exact hspells

theorem publicBase_authority (hc : c.Hosted port) : c.publicBase.authority ≠ none := by
  rw [publicBase, HttpRequest.withoutUser]
  intro hnone
  exact hc.authority (Option.map_eq_none_iff.1 hnone)

end CentralClient

/-! ## Ids in addresses -/

theorem spelled_before_word {word : String} (h : Url.IsWord word) (id : String) :
    spelled (id ++ "/" ++ word) = spelled id ++ "/" ++ word := by
  have hslash : Percent.encode Url.pathExtra "/".toList = "/" := by decide
  rw [spelled, spelled, String.toList_append, String.toList_append, Percent.encode_append,
    Percent.encode_append, hslash, h.encode_eq]

/-- Ids without percent signs are told apart. -/
theorem spelled_inj {a b : String} (ha : '%' ∉ a.toList) (hb : '%' ∉ b.toList) :
    spelled a = spelled b ↔ a = b := by
  rw [spelled, spelled, Percent.encode_inj ha hb, String.toList_inj]

/-- No id but the word itself stands as a word. -/
theorem spelled_eq_word_iff {word : String} (h : Url.IsWord word) (id : String) :
    spelled id = word ↔ id = word := by
  have hsign : '%' ∉ word.toList := fun hmem => absurd (h.lower _ hmem) (by decide)
  have hword : spelled word = word := h.encode_eq
  constructor
  · intro heq
    have hid : '%' ∉ id.toList := fun hmem =>
      hsign (heq ▸ Percent.sign_mem_encode hmem)
    exact (spelled_inj hid hsign).1 (heq.trans hword.symm)
  · rintro rfl
    exact hword

namespace CentralSession

open CentralClient (Hosted HasSendableToken delete_asks_iff put_asks_iff)

theorem recordPath_eq (id : String) : recordPath id = "containers" ++ "/" ++ id := by
  have hfront : "containers/" = "containers" ++ "/" := by decide
  rw [recordPath, hfront]

theorem resultPath_eq (id : String) :
    "tasks/" ++ id ++ "/result" = "tasks" ++ "/" ++ (id ++ "/" ++ "result") := by
  have hfront : "tasks/" = "tasks" ++ "/" := by decide
  have hback : "/result" = "/" ++ "result" := by decide
  rw [hfront, hback]
  simp only [String.append_assoc]

variable {port : Nat} {id : String} {result : TaskResult}

theorem deletion_asks_iff : (s.exchange (.delete id)).Asks http ↔
    ∃ url, s.client.resolve ("containers" ++ "/" ++ id) = .ok url ∧
      HttpRequest.create? .delete url s.client.token none = some http := by
  rw [← recordPath_eq]
  exact delete_asks_iff

theorem report_asks_iff : (s.exchange (.report id result)).Asks http ↔
    ∃ url, s.client.resolve ("tasks" ++ "/" ++ (id ++ "/" ++ "result")) = .ok url ∧
      HttpRequest.create? .post url s.client.token (some result.toJson) = some http := by
  rw [← resultPath_eq]
  exact put_asks_iff

/-- The id is a part of an address as it is. -/
def IsPart (s : CentralSession) (id : String) : Prop :=
  Url.Own (Url.SchemeKind.of s.client.base.scheme) id.toList

/-- The id is a part of an address, also at its end. -/
def IsLastPart (s : CentralSession) (id : String) : Prop :=
  s.IsPart id ∧ Url.EndsInText id.toList

instance (s : CentralSession) (id : String) : Decidable (s.IsPart id) :=
  inferInstanceAs (Decidable (Url.Own _ _))

instance (s : CentralSession) (id : String) : Decidable (s.IsLastPart id) :=
  inferInstanceAs (Decidable (s.IsPart id ∧ Url.EndsInText id.toList))

/-- A record has an address of its own exactly if its id is a part of an address. -/
theorem deletion_spells_iff (hc : s.client.Hosted port)
    (h : (s.exchange (.delete id)).Asks http) :
    http.url.Spells s.client.publicBase ("/containers/" ++ spelled id) ↔ s.IsLastPart id := by
  obtain ⟨url, hurl, hhttp⟩ := deletion_asks_iff.1 h
  have hspells := CentralClient.request_spells_iff hc (by decide) hurl hhttp
  have hfront : "/" ++ "containers" ++ "/" = "/containers/" := by decide
  rw [hfront] at hspells
  rw [hspells, IsLastPart, IsPart, hc.base.scheme]

/-- A task has an address of its own exactly if its id is a part of an address. -/
theorem report_spells_iff (hc : s.client.Hosted port)
    (h : (s.exchange (.report id result)).Asks http) :
    http.url.Spells s.client.publicBase ("/tasks/" ++ spelled id ++ "/result") ↔ s.IsPart id := by
  obtain ⟨url, hurl, hhttp⟩ := report_asks_iff.1 h
  have hresult : Url.IsWord "result" := by decide
  have hspells := CentralClient.request_spells_iff hc (by decide) hurl hhttp
  have htail : "/" ++ "tasks" ++ "/" ++ (spelled id ++ "/" ++ "result") =
      "/tasks/" ++ spelled id ++ "/result" := by
    have hfront : "/" ++ "tasks" ++ "/" = "/tasks/" := by decide
    have hback : "/result" = "/" ++ "result" := by decide
    rw [hfront, hback]
    simp only [String.append_assoc]
  rw [spelled_before_word hresult, htail, Url.IsWord.toList_behind,
    Url.own_before_word_iff hresult] at hspells
  rw [hspells, IsPart, hc.base.scheme]

/-- Requests tell ids apart. -/
structure OwnAddresses (s : CentralSession) : Prop where
  /-- Whatever the id of a container, its deletion asks for a request, if there is a token that
  can be sent or none. -/
  deletion_asks : s.client.HasSendableToken → ∀ id, ∃ http, (s.exchange (.delete id)).Asks http
  report_asks : s.client.HasSendableToken →
    ∀ id result, ∃ http, (s.exchange (.report id result)).Asks http
  /-- It is the request of a record under its id exactly if the id is a part of an address. -/
  deletion_spells : ∀ id http, (s.exchange (.delete id)).Asks http →
    (http.url.Spells s.client.publicBase ("/containers/" ++ spelled id) ↔ s.IsLastPart id)
  report_spells : ∀ id result http, (s.exchange (.report id result)).Asks http →
    (http.url.Spells s.client.publicBase ("/tasks/" ++ spelled id ++ "/result") ↔ s.IsPart id)
  /-- Of such ids, those that are encoded differently have different addresses, and those without
  percent signs are encoded differently. -/
  deletions : ∀ a b http http', s.IsLastPart a → s.IsLastPart b →
    (s.exchange (.delete a)).Asks http → (s.exchange (.delete b)).Asks http' →
      (http.url.render = http'.url.render ↔ spelled a = spelled b) ∧
        ('%' ∉ a.toList → '%' ∉ b.toList → a ≠ b → http.url.render ≠ http'.url.render)
  reports : ∀ a b result result' http http', s.IsPart a → s.IsPart b →
    (s.exchange (.report a result)).Asks http → (s.exchange (.report b result')).Asks http' →
      (http.url.render = http'.url.render ↔ spelled a = spelled b) ∧
        ('%' ∉ a.toList → '%' ∉ b.toList → a ≠ b → http.url.render ≠ http'.url.render)
  /-- No such id means all records. -/
  records : ∀ id http record other, s.IsLastPart id → (s.exchange (.delete id)).Asks http →
    (ContainerRequest.create record).http? s.client = some other →
      http.url.render ≠ other.url.render
  /-- One such id means the list of what is ignored. -/
  ignored : ∀ id http other, s.IsLastPart id → (s.exchange (.delete id)).Asks http →
    ContainerRequest.listIgnored.http? s.client = some other →
      (http.url.render = other.url.render ↔ id = "ignored")

/-- Different ids have different addresses if they are encoded differently. -/
theorem render_apart (hc : s.client.Hosted port) {u v : Url} {front back a b : String}
    (hu : u.Spells s.client.publicBase (front ++ spelled a ++ back))
    (hv : v.Spells s.client.publicBase (front ++ spelled b ++ back)) :
    (u.render = v.render ↔ spelled a = spelled b) ∧
      ('%' ∉ a.toList → '%' ∉ b.toList → a ≠ b → u.render ≠ v.render) := by
  have hsame : u.render = v.render ↔ spelled a = spelled b := by
    rw [hu.render_inj hv (CentralClient.publicBase_authority hc), String.append_left_inj,
      String.append_right_inj]
  refine ⟨hsame, fun ha hb hne heq => hne ?_⟩
  exact (spelled_inj ha hb).1 (hsame.1 heq)

/-- The address of a record is longer than the address of all records. -/
theorem render_ne_records (hc : s.client.Hosted port) {u : Url}
    (hu : u.Spells s.client.publicBase ("/containers/" ++ spelled id)) {record : ContainerRecord}
    {other : HttpRequest} (hother : (ContainerRequest.create record).http? s.client = some other) :
    u.render ≠ other.url.render := by
  intro heq
  obtain ⟨url, hurl, hhttp⟩ := (ContainerRequest.http?_eq_some_iff _ _ _).1 hother
  have hword := CentralClient.word_request_spells hc
    (show Url.IsWord "containers" by decide) hurl hhttp
  have hsame := (hu.render_inj hword (CentralClient.publicBase_authority hc)).1 heq
  have hlength := congrArg String.length hsame
  simp only [String.length_append] at hlength
  have hfront : "/containers/".length = "/".length + "containers".length + 1 := by decide
  omega

/-- The address of the list of what is ignored is that of a record with the id `ignored`. -/
theorem render_eq_ignored_iff (hc : s.client.Hosted port) {u : Url}
    (hu : u.Spells s.client.publicBase ("/containers/" ++ spelled id)) {other : HttpRequest}
    (hother : ContainerRequest.listIgnored.http? s.client = some other) :
    u.render = other.url.render ↔ id = "ignored" := by
  obtain ⟨url, hurl, hhttp⟩ := (ContainerRequest.http?_eq_some_iff _ _ _).1 hother
  have hword : Url.IsWord "ignored" := by decide
  have hpath : ContainerRequest.listIgnored.path = "containers" ++ "/" ++ "ignored" := by decide
  rw [hpath] at hurl
  have hlist := (CentralClient.request_spells_iff hc (by decide) hurl hhttp).2 (hword.own port)
  have hfront : "/" ++ "containers" ++ "/" = "/containers/" := by decide
  rw [hfront] at hlist
  have hignored : spelled "ignored" = "ignored" := hword.encode_eq
  rw [hu.render_inj hlist (CentralClient.publicBase_authority hc), String.append_right_inj,
    hignored]
  exact spelled_eq_word_iff hword id

/-- Let the base address be one of the web. Whatever its path and whatever the ids are, requests
about ids that are parts of addresses go to addresses of their own: below the words `containers` and
`tasks`, with the id as it is encoded, and two of them to the same address only if they are encoded
alike. One such id, `ignored`, means the list of what is ignored. -/
theorem ids_own_addresses {baseUrl : String} {token : Option String}
    (hclient : CentralClient.create baseUrl token = .ok s.client)
    (hscheme : s.client.base.scheme = "http" ∨ s.client.base.scheme = "https") :
    s.OwnAddresses := by
  obtain ⟨port, hc⟩ := CentralClient.hosted_of_create hclient hscheme
  have hspells : ∀ id http, s.IsLastPart id → (s.exchange (.delete id)).Asks http →
      http.url.Spells s.client.publicBase ("/containers/" ++ spelled id) :=
    fun id http hid h => (deletion_spells_iff hc h).2 hid
  refine
    { deletion_asks := ?_, report_asks := ?_
      deletion_spells := fun id http h => deletion_spells_iff hc h
      report_spells := fun id result http h => report_spells_iff hc h
      deletions := ?_, reports := ?_, records := ?_, ignored := ?_ }
  · intro htoken id
    obtain ⟨http, hhttp⟩ := CentralClient.exists_request hc htoken
      (show Url.IsWord "containers" by decide) id .delete none
    exact ⟨http, deletion_asks_iff.2 hhttp⟩
  · intro htoken id result
    obtain ⟨http, hhttp⟩ := CentralClient.exists_request hc htoken
      (show Url.IsWord "tasks" by decide) (id ++ "/" ++ "result") .post (some result.toJson)
    exact ⟨http, report_asks_iff.2 hhttp⟩
  · intro a b http http' ha hb h h'
    have hu := hspells a http ha h
    have hv := hspells b http' hb h'
    rw [← String.append_empty (s := "/containers/" ++ spelled a)] at hu
    rw [← String.append_empty (s := "/containers/" ++ spelled b)] at hv
    exact render_apart hc hu hv
  · intro a b result result' http http' ha hb h h'
    exact render_apart hc ((report_spells_iff hc h).2 ha) ((report_spells_iff hc h').2 hb)
  · intro id http record other hid h hother
    exact render_ne_records hc (hspells id http hid h) hother
  · intro id http other hid h hother
    exact render_eq_ignored_iff hc (hspells id http hid h) hother

/-- The slashes of an id and what has to be encoded of it are no harm. -/
theorem ids_own_addresses_plain :
    CentralClient.create " http://central" (some "") = .ok plainSession.client ∧
      (plainSession.client.base.scheme = "http" ∨ plainSession.client.base.scheme = "https") ∧
      plainSession.IsLastPart "a" ∧ plainSession.IsLastPart "a/b \u00e9" ∧
      ∃ http http', (plainSession.exchange (.delete "a")).Asks http ∧
        (plainSession.exchange (.delete "a/b \u00e9")).Asks http' ∧
          http.url.render ≠ http'.url.render := by
  have hclient : CentralClient.create " http://central" (some "") = .ok plainSession.client := rfl
  have hscheme : plainSession.client.base.scheme = "http" ∨
      plainSession.client.base.scheme = "https" := .inl rfl
  have hown := ids_own_addresses hclient hscheme
  have ha : plainSession.IsLastPart "a" := by decide
  have hb : plainSession.IsLastPart "a/b \u00e9" := by decide
  obtain ⟨http, hhttp⟩ := hown.deletion_asks rfl "a"
  obtain ⟨http', hhttp'⟩ := hown.deletion_asks rfl "a/b \u00e9"
  have hapart := (hown.deletions "a" "a/b \u00e9" http http' ha hb hhttp hhttp').2
  exact ⟨hclient, hscheme, ha, hb, http, http', hhttp, hhttp',
    hapart (by decide) (by decide) (by decide)⟩

/-- An id with pieces of dots is sent as another id: one request deletes both records. -/
theorem dots_share_address :
    CentralClient.create " http://central" (some "") = .ok plainSession.client ∧
      "b" ≠ "" ∧ "a/../b" ≠ "" ∧ "b" ≠ "a/../b" ∧
        ∃ http, (plainSession.exchange (.delete "b")).Asks http ∧
          (plainSession.exchange (.delete "a/../b")).Asks http ∧
            http.url.render = "http://central/containers/b" := by
  let http : HttpRequest := ⟨.delete, centralUrl ["containers", "b"], [], none⟩
  have hplain : (plainSession.exchange (.delete "b")).Asks http :=
    deletion_asks_iff.2 ⟨centralUrl ["containers", "b"], rfl, rfl⟩
  have hdots : (plainSession.exchange (.delete "a/../b")).Asks http :=
    deletion_asks_iff.2 ⟨centralUrl ["containers", "b"], rfl, rfl⟩
  exact ⟨rfl, by decide, by decide, by decide, http, hplain, hdots, by decide⟩

end CentralSession

end HostAgent
