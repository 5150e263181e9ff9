import HostAgent.Engine.Api
import HostAgent.Engine.Image
import HostAgent.Proofs.Agent.Questions
import HostAgent.Proofs.Engine.Publishing

/-!
# The image that is pulled is the one that a container is created from

The engine is told the repository and the tag of an image to pull, and takes the
whole image to create a container. So a deployment depends on how an image is
split. The grammar of references goes by the last part of an image, what stands
behind its last slash: a colon there is in front of a tag, and a colon further in
front is that of a port. Splitting goes by the last colon instead. The two agree,
since the last colon has no slash behind it just if it stands in the last part.

## Main results

* `ImageReference.split_eq_iff`: an image is split as the grammar says.
* `ImageReference.Denotes.named`: putting a reference together again keeps what it denotes.
* `EngineApi.pull_pulls`, `EngineApi.create_creates`: the requests that name an image.
* `ImageReference.pulled_is_created`: what is pulled is what a container is created from.
-/

namespace HostAgent

/-! ## Marks in a text -/

namespace Text

variable {c d : Char} {front back path part : List Char}

theorem not_mem_behind (h : c ∉ front ++ d :: back) : c ∉ back :=
  fun hmem => h (List.mem_append_right front (List.mem_cons_of_mem d hmem))

/-- Of two marks in a text that are not the same one, one stands in front of the other. -/
theorem marks_cases (h : front ++ c :: back = path ++ d :: part) :
    (c = d ∧ back = part) ∨ (∃ mid, part = mid ++ c :: back) ∨
      ∃ mid, path = front ++ c :: mid ∧ back = mid ++ d :: part := by
  rcases List.append_eq_append_iff.1 h with ⟨mid, hpath, hback⟩ | ⟨mid, -, hpart⟩
  · rcases List.cons_eq_append_iff.1 hback with ⟨rfl, hsame⟩ | ⟨mid', rfl, hrest⟩
    · obtain ⟨rfl, rfl⟩ := List.cons.inj hsame
      exact .inl ⟨rfl, rfl⟩
    · exact .inr (.inr ⟨mid', hpath, hrest⟩)
  · rcases List.cons_eq_append_iff.1 hpart with ⟨rfl, hsame⟩ | ⟨mid', rfl, hrest⟩
    · obtain ⟨rfl, rfl⟩ := List.cons.inj hsame
      exact .inl ⟨rfl, rfl⟩
    · exact .inr (.inl ⟨mid', hrest⟩)

end Text

namespace ImageReference

/-! ## The grammar of references -/

/-- The last part of an image stands behind its last slash, or is all of it if there is none. -/
def IsLastPart (image part : String) : Prop :=
  '/' ∉ part.toList ∧ (image = part ∨ ∃ path, image = path ++ "/" ++ part)

/-- What an image denotes: a digest as it is, a repository and the tag in the last part, or a
repository under its default tag. -/
inductive Denotes (image : String) : ImageReference → Prop
  | digest : '@' ∈ image.toList → Denotes image ⟨image, none⟩
  | tagged {part repository tag : String} : '@' ∉ image.toList → IsLastPart image part →
      ':' ∈ part.toList → image = repository ++ ":" ++ tag → ':' ∉ tag.toList →
      Denotes image ⟨repository, some tag⟩
  | untagged {part : String} : '@' ∉ image.toList → IsLastPart image part → ':' ∉ part.toList →
      Denotes image ⟨image, some "latest"⟩

theorem exists_lastPart (image : String) : ∃ part, IsLastPart image part := by
  cases hcut : cutAtLast? '/' image.toList with
  | none => exact ⟨image, cutAtLast?_eq_none_iff.1 hcut, .inl rfl⟩
  | some cut =>
      obtain ⟨himage, hpart⟩ := cutAtLast?_eq_some_iff.1 hcut
      refine ⟨String.ofList cut.2, by simpa using hpart, .inr ⟨String.ofList cut.1, ?_⟩⟩
      exact String.toList_injective (by simp [himage])

/-- No slash stands behind the last colon just if it is in the last part. -/
theorem IsLastPart.colon_mem_iff {image part : String} (h : IsLastPart image part)
    {front back : List Char} (himage : image.toList = front ++ ':' :: back) (hback : ':' ∉ back) :
    ':' ∈ part.toList ↔ '/' ∉ back := by
  obtain ⟨hplain, rfl | ⟨path, rfl⟩⟩ := h
  · have hslash : '/' ∉ back := Text.not_mem_behind (himage ▸ hplain)
    exact iff_of_true (by simp [himage]) hslash
  · have hmarks : front ++ ':' :: back = path.toList ++ '/' :: part.toList :=
      himage.symm.trans (Text.toList_joined path part '/')
    rcases Text.marks_cases hmarks with ⟨hsame, -⟩ | ⟨mid, hpart⟩ | ⟨mid, -, hrest⟩
    · exact absurd hsame (by decide)
    · -- The last colon stands behind the last slash.
      have hslash : '/' ∉ back := Text.not_mem_behind (hpart ▸ hplain)
      exact iff_of_true (by simp [hpart]) hslash
    · -- The last slash stands behind the last colon.
      have hcolon : ':' ∉ part.toList := Text.not_mem_behind (hrest ▸ hback)
      exact iff_of_false hcolon (by simp [hrest])

theorem IsLastPart.subset {image part : String} (h : IsLastPart image part) :
    part.toList ⊆ image.toList := by
  obtain ⟨-, rfl | ⟨path, rfl⟩⟩ := h
  · exact List.Subset.refl _
  · simp

theorem exists_denotes (image : String) : ∃ r, Denotes image r := by
  obtain ⟨part, hpart⟩ := exists_lastPart image
  by_cases hdigest : '@' ∈ image.toList
  · exact ⟨_, .digest hdigest⟩
  by_cases hcolon : ':' ∈ part.toList
  · cases hcut : cutAtLast? ':' image.toList with
    | none => exact absurd (hpart.subset hcolon) (cutAtLast?_eq_none_iff.1 hcut)
    | some cut =>
        obtain ⟨himage, htag⟩ := cutAtLast?_eq_some_iff.1 hcut
        refine ⟨⟨String.ofList cut.1, some (String.ofList cut.2)⟩,
          .tagged hdigest hpart hcolon (String.toList_injective ?_) (by simpa using htag)⟩
        simp [himage]
  · exact ⟨_, .untagged hdigest hpart hcolon⟩

/-! ## Splitting -/

section Splitting

variable {image : String} {r : ImageReference}

/-- The last colon of an image is in front of a tag if it is in the last part, and belongs to the
repository otherwise. -/
theorem Denotes.split_eq (h : Denotes image r) : split image = r := by
  cases h with
  | digest hdigest => exact split_of_digest (by simpa using hdigest)
  | @tagged part repository tag hdigest hpart hcolon himage htag =>
      have hchars : image.toList = repository.toList ++ ':' :: tag.toList :=
        himage ▸ Text.toList_joined repository tag ':'
      have hcut := cutAtLast?_eq_some_iff.2 ⟨hchars, htag⟩
      have hslash : '/' ∉ tag.toList := (hpart.colon_mem_iff hchars htag).1 hcolon
      simp [split, hdigest, hcut, hslash]
  | @untagged part hdigest hpart hcolon =>
      cases hcut : cutAtLast? ':' image.toList with
      | none => simp [split, hdigest, hcut, defaultTag]
      | some cut =>
          obtain ⟨hchars, hback⟩ := cutAtLast?_eq_some_iff.1 hcut
          have hslash : '/' ∈ cut.2 :=
            not_not.1 fun hnone => hcolon ((hpart.colon_mem_iff hchars hback).2 hnone)
          simp [split, hdigest, hcut, hslash, defaultTag]

/-- Every image denotes one reference, and it is split into that. -/
theorem split_eq_iff : split image = r ↔ Denotes image r := by
  constructor
  · rintro rfl
    obtain ⟨r, h⟩ := exists_denotes image
    rwa [h.split_eq]
  · exact Denotes.split_eq

/-- A tag has neither a slash nor a colon. -/
theorem Denotes.tag_plain (h : Denotes image r) :
    ∀ tag ∈ r.tag, '/' ∉ tag.toList ∧ ':' ∉ tag.toList := by
  cases h with
  | digest => simp
  | @tagged part repository tag hdigest hpart hcolon himage htag =>
      have hchars : image.toList = repository.toList ++ ':' :: tag.toList :=
        himage ▸ Text.toList_joined repository tag ':'
      simpa using ⟨(hpart.colon_mem_iff hchars htag).1 hcolon, htag⟩
  | untagged => simp

/-- A colon with a slash behind it stays in the repository. -/
theorem Denotes.keeps_port (h : Denotes image r) {front back : String}
    (himage : image = front ++ ":" ++ back) (hslash : '/' ∈ back.toList) :
    ∃ more, r.repository = front ++ ":" ++ more := by
  have hplain := h.tag_plain
  cases h with
  | digest | untagged => exact ⟨back, himage⟩
  | @tagged part repository tag _ _ _ htagged _ =>
      obtain ⟨htag, -⟩ := hplain tag rfl
      have hmarks :
          front.toList ++ ':' :: back.toList = repository.toList ++ ':' :: tag.toList := by
        rw [← Text.toList_joined, ← Text.toList_joined]
        exact congrArg String.toList (himage.symm.trans htagged)
      rcases Text.marks_cases hmarks with ⟨-, hsame⟩ | ⟨mid, htail⟩ | ⟨mid, hfront, -⟩
      · exact absurd (hsame ▸ hslash) htag
      · exact absurd (by simp [htail, hslash]) htag
      · refine ⟨String.ofList mid, String.toList_injective ?_⟩
        simp [hfront]

/-- A reference as an image: its tag stands behind a colon. -/
def name (r : ImageReference) : String :=
  match r.tag with
  | none => r.repository
  | some tag => r.repository ++ ":" ++ tag

/-- A reference put together again as an image denotes itself, also if it has a tag that the image
left out. -/
theorem Denotes.named (h : Denotes image r) : Denotes r.name r := by
  cases h with
  | digest hdigest => exact .digest hdigest
  | tagged hdigest hpart hcolon himage htag =>
      subst himage
      exact .tagged hdigest hpart hcolon rfl htag
  | @untagged part hdigest hpart hcolon =>
      obtain ⟨hplain, hend⟩ := hpart
      have hpart' : IsLastPart (image ++ ":" ++ "latest") (part ++ ":" ++ "latest") := by
        refine ⟨by simpa using hplain, ?_⟩
        rcases hend with rfl | ⟨path, rfl⟩
        · exact .inl rfl
        · exact .inr ⟨path, by simp only [String.append_assoc]⟩
      have hdigest' : '@' ∉ (image ++ ":" ++ "latest").toList := by simpa using hdigest
      exact .tagged hdigest' hpart' (by simp) rfl (by decide)

end Splitting

end ImageReference

/-! ## Requests that name an image -/

theorem CreateRequest.body_image (request : CreateRequest) :
    request.body.get? "Image" = some (.string request.image) := by
  simp [body, Json.get?_record_cons, Json.get?_record_nil, Json.get?_always, Json.get?_whenSome]

namespace EngineApi

variable {α β : Type} {api : EngineApi} {method : HttpMethod} {path : String}
  {query : Option (List (String × String))} {body : Option Json}

/-- An exchange sends one request, if there is an address for it, and is done with the response. -/
def SendsJust (api : EngineApi) (method : HttpMethod) (path : String)
    (query : Option (List (String × String))) (body : Option Json) (e : ApiWork α) : Prop :=
  match Url.parse (api.base ++ path) with
  | .ok url => ∃ f : Option HttpResponse → α, e = .ask
      ⟨method, { url with query := (query.map (Form.extend "")).or url.query }, [], body⟩
      fun response => .done (f response)
  | .error _ => ∃ a, e = .done a

theorem SendsJust.bind {e : ApiWork α} {f : α → ApiWork β}
    (h : api.SendsJust method path query body e) (hf : ∀ a, ∃ b, f a = .done b) :
    api.SendsJust method path query body (e.bind f) := by
  choose g hg using hf
  unfold SendsJust at h ⊢
  split at h
  · obtain ⟨k, rfl⟩ := h
    exact ⟨g ∘ k, congrArg (Program.ask _) (funext fun response => hg (k response))⟩
  · obtain ⟨a, rfl⟩ := h
    exact ⟨g a, hg a⟩

theorem SendsJust.except_bind {e : ApiExchange α} {f : α → ApiExchange β}
    (h : api.SendsJust method path query body e.run) (hf : ∀ a, ∃ b, (f a).run = .done b) :
    api.SendsJust method path query body (e >>= f).run := by
  rw [Program.except_bind]
  refine h.bind ?_
  rintro (fault | a)
  · exact ⟨_, rfl⟩
  · exact hf a

/-- What comes of a request. -/
def received (reply : Option HttpResponse) : Except ApiFault String :=
  reply.elim (.error .unanswered) fun response =>
    if response.isSuccess ∨ response.status = 304 then .ok response.body
    else .error (.ofResponse response)

theorem send_sends :
    api.SendsJust method path query body (api.send method path query body).run := by
  unfold SendsJust send address?
  cases Url.parse (api.base ++ path) with
  | error _ => exact ⟨_, rfl⟩
  | ok url =>
      refine ⟨received, congrArg (Program.ask _) (funext fun reply => ?_)⟩
      cases reply with
      | none => rfl
      | some response =>
          show (if _ then _ else _ : ApiExchange String).run = .done (if _ then _ else _)
          split <;> rfl

/-- A call that has the engine pull what a reference denotes: the query has the repository, and the
tag if there is one. -/
def Pulls (api : EngineApi) (r : ImageReference) (e : ApiWork α) : Prop :=
  api.SendsJust .post "/images/create"
    (some (("fromImage", r.repository) :: r.tag.toList.map fun tag => ("tag", tag))) none e

/-- A call that has the engine create a container from an image: the body has the whole image. -/
def CreatesFrom (api : EngineApi) (image : String) (e : ApiWork α) : Prop :=
  ∃ query body, body.get? "Image" = some (.string image) ∧
    api.SendsJust .post "/containers/create" query (some body) e

theorem pull_pulls (image : String) :
    api.Pulls (ImageReference.split image) (api.exchange (.pull image)) := by
  have hquery : pullQuery (ImageReference.split image) =
      ("fromImage", (ImageReference.split image).repository) ::
        (ImageReference.split image).tag.toList.map fun tag => ("tag", tag) := by
    cases htag : (ImageReference.split image).tag <;> simp [pullQuery, htag]
  rw [Pulls, ← hquery]
  exact (send_sends.except_bind fun _ => ⟨_, rfl⟩).bind fun _ => ⟨_, rfl⟩

theorem create_creates (request : CreateRequest) :
    api.CreatesFrom request.image (api.exchange (.create request)) := by
  refine ⟨_, request.body, request.body_image,
    (send_sends.except_bind fun text => ?_).bind fun _ => ⟨_, rfl⟩⟩
  unfold read
  split <;> exact ⟨_, rfl⟩

end EngineApi

/-! ## Deployments -/

/-- What is asked is about no other image than this one. -/
def Action.Concerns (api : EngineApi) (image : String) : Action → Prop
  | .engine (.inspectImage other) => other = image
  | .engine (.pull other) => api.Pulls (ImageReference.split image) (api.exchange (.pull other))
  | .engine (.create request) => api.CreatesFrom image (api.exchange (.create request))
  | _ => True

/-- An image is split into what it denotes, whatever ports and slashes it has: its tag has neither a
slash nor a colon, and a colon with a slash behind it stays in the repository. Put together again,
the two parts denote the same as the image. So what a deployment has pulled is what its container is
created from: the request for the pull names what the image denotes, and the request for the
container has the image itself. -/
theorem ImageReference.pulled_is_created (image : String) :
    (∀ r, split image = r ↔ Denotes image r) ∧
    (∀ tag ∈ (split image).tag, '/' ∉ tag.toList ∧ ':' ∉ tag.toList) ∧
    (∀ front back, image = front ++ ":" ++ back → '/' ∈ back.toList →
      ∃ more, (split image).repository = front ++ ":" ++ more) ∧
    split (split image).name = split image ∧
    ∀ (api : EngineApi) (spec : ContainerSpec), spec.image = image →
      (Tasks.deploy spec).Asking (Action.Concerns api image) := by
  have hdenotes : Denotes image (split image) := split_eq_iff.1 rfl
  refine ⟨fun _ => split_eq_iff, hdenotes.tag_plain, fun _ _ => hdenotes.keeps_port,
    hdenotes.named.split_eq, ?_⟩
  rintro api spec rfl
  refine (Tasks.deploy_asking spec).mono fun action haction => ?_
  cases action with
  | engine call =>
      cases call with
      | inspectImage other => exact haction
      | pull other =>
          obtain rfl : other = spec.image := haction
          exact EngineApi.pull_pulls _
      | create request =>
          obtain rfl : request = spec.createRequest := haction
          exact EngineApi.create_creates spec.createRequest
      | _ => trivial
  | _ => trivial

example : ImageReference.split "registry:5000/team/app:v2" =
    ⟨"registry:5000/team/app", some "v2"⟩ := by decide +kernel

example : ImageReference.split "registry:5000/team/app" =
    ⟨"registry:5000/team/app", some "latest"⟩ := by decide +kernel

end HostAgent
