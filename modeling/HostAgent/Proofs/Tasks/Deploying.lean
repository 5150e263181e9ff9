import HostAgent.Proofs.Tasks.Executing

/-!
# Deployments are all or nothing

A deployment has an image fetched, if its policy asks for that, creates a
container and starts it. Each of these calls may fail, and the first that does
ends the deployment. Only a container that was created and does not start leaves
something to do: it is removed by force, and whatever is replied to that, the
deployment fails for the reason for which the container did not start.

The language of these calls is written down first. It does not mention the
containers of the engine. That a failed deployment leaves them as they were
follows for every engine that keeps to itself what fails, adds a created container
under a new id, and removes what it is told to remove.

## Main results

* `deploy_deploys`: the calls of a deployment, and what comes of them.
* `Deploying.of_ok`, `Deploying.of_error`: what a deployment reports.
* `Deploying.restores`: a deployment that fails leaves no trace.
* `execute_allOrNothing`: the whole of a task to deploy.
-/

namespace HostAgent.Tasks

variable {σ α : Type} {spec : ContainerSpec}

/-! ## The language of a deployment -/

/-- What is asked to have an image, and whether it was pulled. -/
inductive Fetching (image : String) :
    PullPolicy → List (Asked Action.Reply) → Except EngineError Bool → Prop
  | unwanted : Fetching image .never [] (.ok false)
  | present : Fetching image .ifNotPresent [⟨.engine (.inspectImage image), .ok ()⟩] (.ok false)
  | missing (e : EngineError) (pulled : Except EngineError Unit) :
      Fetching image .ifNotPresent
        [⟨.engine (.inspectImage image), .error e⟩, ⟨.engine (.pull image), pulled⟩]
        (pulled.map fun _ => true)
  | wanted (pulled : Except EngineError Unit) :
      Fetching image .always [⟨.engine (.pull image), pulled⟩] (pulled.map fun _ => true)

/-- What a deployment that came to its end reports. -/
def deployed (spec : ContainerSpec) (id : String) (pulled : Bool) : TaskResult :=
  { success := true
    containerId := some id
    message := "container deployed"
    data := .ofMembers [
      ("image", .string spec.image), ("name", .ofText? (Text.nonEmpty? spec.name)),
      ("pulled", .bool pulled)] }

/-- What is asked once the image is there, and what comes of it. -/
inductive Launching (spec : ContainerSpec) (pulled : Bool) :
    List (Asked Action.Reply) → Except EngineError TaskResult → Prop
  | uncreated (e : EngineError) :
      Launching spec pulled [⟨.engine (.create spec.createRequest), .error e⟩] (.error e)
  | unstarted (id : String) (e : EngineError) (removed : Except EngineError Unit) :
      Launching spec pulled
        [⟨.engine (.create spec.createRequest), .ok id⟩, ⟨.engine (.start id), .error e⟩,
          ⟨.notice (.line "Start failed after create, removing container"), ()⟩,
          ⟨.engine (.remove id true false), removed⟩]
        (.error e)
  | started (id : String) :
      Launching spec pulled
        [⟨.engine (.create spec.createRequest), .ok id⟩, ⟨.engine (.start id), .ok ()⟩]
        (.ok (deployed spec id pulled))

/-- What is asked for a deployment, and what comes of it. -/
inductive Deploying (spec : ContainerSpec) :
    List (Asked Action.Reply) → Except EngineError TaskResult → Prop
  | unfetched {past : List (Asked Action.Reply)} {e : EngineError} :
      Fetching spec.image spec.pullPolicy past (.error e) → Deploying spec past (.error e)
  | fetched {first second : List (Asked Action.Reply)} {pulled : Bool}
      {result : Except EngineError TaskResult} :
      Fetching spec.image spec.pullPolicy first (.ok pulled) →
      Launching spec pulled second result → Deploying spec (first ++ second) result

/-! ## Histories -/

variable {past : List (Asked Action.Reply)}

theorem pullImage_fetches {image : String} {policy : PullPolicy} {result : Except EngineError Bool}
    (h : (pullImage image policy).Yields past result) : Fetching image policy past result := by
  cases policy with
  | never =>
      obtain ⟨rfl, rfl⟩ := (Program.yields_done _ _ _).1 h
      exact .unwanted
  | always =>
      obtain ⟨pulled, rfl, rfl⟩ := yields_call h
      exact .wanted pulled
  | ifNotPresent =>
      obtain ⟨found, _, rfl, hrest⟩ := (Program.yields_ask _ _ _ _).1 h
      cases found with
      | ok _ =>
          obtain ⟨rfl, rfl⟩ := (Program.yields_done _ _ _).1 hrest
          exact .present
      | error e =>
          obtain ⟨pulled, rfl, rfl⟩ := yields_call hrest
          exact .missing e pulled

/-- What a deployment does when it has the image. -/
def launch (spec : ContainerSpec) (pulled : Bool) : Work (Except EngineError TaskResult) := do
  match ← Work.engine (.create spec.createRequest) with
  | .error e => return .error e
  | .ok id =>
    match ← Work.engine (.start id) with
    | .ok _ => return .ok (deployed spec id pulled)
    | .error e =>
      Work.say "Start failed after create, removing container"
      let _ ← Work.engine (.remove id true false)
      return .error e

theorem deploy_eq (spec : ContainerSpec) :
    deploy spec = (pullImage spec.image spec.pullPolicy).bind fun
      | .error e => .done (.error e)
      | .ok pulled => launch spec pulled := rfl

theorem launch_launches {pulled : Bool} {result : Except EngineError TaskResult}
    (h : (launch spec pulled).Yields past result) : Launching spec pulled past result := by
  obtain ⟨created, _, rfl, hrest⟩ := (Program.yields_ask _ _ _ _).1 h
  cases created with
  | error e =>
      obtain ⟨rfl, rfl⟩ := (Program.yields_done _ _ _).1 hrest
      exact .uncreated e
  | ok id =>
      obtain ⟨started, _, rfl, hafter⟩ := (Program.yields_ask _ _ _ _).1 hrest
      cases started with
      | ok _ =>
          obtain ⟨rfl, rfl⟩ := (Program.yields_done _ _ _).1 hafter
          exact .started id
      | error e =>
          obtain ⟨⟨⟩, _, rfl, hremove⟩ := (Program.yields_ask _ _ _ _).1 hafter
          obtain ⟨removed, rfl, rfl⟩ := yields_call hremove
          exact .unstarted id e removed

theorem deploy_deploys {result : Except EngineError TaskResult}
    (h : (deploy spec).Yields past result) : Deploying spec past result := by
  obtain ⟨first, second, fetched, rfl, hfetch, hrest⟩ :=
    (Program.yields_bind _ _ _ _).1 (deploy_eq spec ▸ h)
  have hfetched := pullImage_fetches hfetch
  cases fetched with
  | error e =>
      obtain ⟨rfl, rfl⟩ := (Program.yields_done _ _ _).1 hrest
      exact (List.append_nil first).symm ▸ .unfetched hfetched
  | ok pulled => exact .fetched hfetched (launch_launches hrest)

/-! ## Which calls are made -/

/-- A history has asked for an image to be pulled. -/
def Pulls (image : String) (past : List (Asked Action.Reply)) : Prop :=
  ∃ reply, ⟨.engine (.pull image), reply⟩ ∈ past

/-- A policy has an image pulled that was looked at like this. -/
def Wanted (image : String) (policy : PullPolicy) (past : List (Asked Action.Reply)) : Prop :=
  policy = .always ∨
    policy = .ifNotPresent ∧ ∃ e, ⟨.engine (.inspectImage image), .error e⟩ ∈ past

theorem Fetching.pulls_iff {image : String} {policy : PullPolicy} {result : Except EngineError Bool}
    (h : Fetching image policy past result) : Pulls image past ↔ Wanted image policy past := by
  cases h <;> simp [Pulls, Wanted]

/-- Whether an image was pulled is told if all went well. -/
theorem Fetching.pulled_iff {image : String} {policy : PullPolicy} {pulled : Bool}
    (h : Fetching image policy past (.ok pulled)) : pulled = true ↔ Pulls image past := by
  generalize hresult : Except.ok pulled = result at h
  cases h with
  | unwanted | present =>
      cases hresult
      simp [Pulls]
  | missing e reply | wanted reply =>
      cases reply <;> cases hresult
      simp [Pulls]

/-- An action is about an image, and not about a container. -/
def isOfImage : Action → Bool
  | .engine (.inspectImage _) | .engine (.pull _) => true
  | _ => false

theorem Fetching.of_image {image : String} {policy : PullPolicy} {result : Except EngineError Bool}
    (h : Fetching image policy past result) : ∀ x ∈ past, isOfImage x.question = true := by
  cases h <;> simp [isOfImage]

theorem Launching.of_container {pulled : Bool} {result : Except EngineError TaskResult}
    (h : Launching spec pulled past result) : ∀ x ∈ past, isOfImage x.question = false := by
  cases h <;> simp [isOfImage]

section Parts

/- A deployment asks about the image first, and about the container then. -/
variable {first second : List (Asked Action.Reply)} {x : Asked Action.Reply}

theorem mem_first_iff (hsecond : ∀ x ∈ second, isOfImage x.question = false)
    (hx : isOfImage x.question = true) : x ∈ first ++ second ↔ x ∈ first := by
  rw [List.mem_append]
  refine or_iff_left fun hmem => ?_
  rw [hsecond x hmem] at hx
  cases hx

theorem mem_second_iff (hfirst : ∀ x ∈ first, isOfImage x.question = true)
    (hx : isOfImage x.question = false) : x ∈ first ++ second ↔ x ∈ second := by
  rw [List.mem_append]
  refine or_iff_right fun hmem => ?_
  rw [hfirst x hmem] at hx
  cases hx

theorem pulls_append (hsecond : ∀ x ∈ second, isOfImage x.question = false) (image : String) :
    Pulls image (first ++ second) ↔ Pulls image first :=
  exists_congr fun _ => mem_first_iff hsecond rfl

end Parts

theorem Deploying.pulls_iff {result : Except EngineError TaskResult}
    (h : Deploying spec past result) :
    Pulls spec.image past ↔ Wanted spec.image spec.pullPolicy past := by
  cases h with
  | unfetched h => exact h.pulls_iff
  | fetched hfetch hlaunch =>
      rw [pulls_append hlaunch.of_container, hfetch.pulls_iff]
      exact or_congr_right <| and_congr_right fun _ =>
        exists_congr fun _ => (mem_first_iff hlaunch.of_container rfl).symm

/-! ## What becomes of the containers -/

/-- An engine that removes what it is told to remove by force, whatever it replies. A container is
created under a new id, or there is none; starting it concerns no other container; and an image is
not a container. -/
def Removes : EngineRule α
  | f, .inspectImage _, _, g | f, .pull _, _, g => g = f
  | f, .create _, .ok id, g => f.get? id = none ∧ ∃ a, g = f.insert id a
  | f, .create _, .error _, g => g = f
  | f, .start id, _, g => g.erase id = f.erase id
  | f, .remove id true _, _, g => g = f.erase id
  | _, _, _, _ => True

theorem Fetching.keeps {image : String} {policy : PullPolicy} {result : Except EngineError Bool}
    {f g : KeyMap α} (h : Fetching image policy past result) (hleads : Leads Removes f past g) :
    g = f := by
  cases h with
  | unwanted => exact hleads
  | present | wanted _ =>
      obtain ⟨f₁, rfl, hend⟩ := hleads
      exact hend
  | missing _ _ =>
      obtain ⟨f₁, rfl, f₂, rfl, hend⟩ := hleads
      exact hend

/-- A container that was created and did not start is not there any more in the end. -/
theorem Launching.restores {pulled : Bool} {e : EngineError} {f g : KeyMap α}
    (h : Launching spec pulled past (.error e)) (hleads : Leads Removes f past g) : g = f := by
  cases h with
  | uncreated _ =>
      obtain ⟨f₁, rfl, hend⟩ := hleads
      exact hend
  | unstarted id _ _ =>
      obtain ⟨f₁, ⟨hnew, a, rfl⟩, f₂, hstart, f₃, rfl, rfl⟩ := hleads
      calc f₂.erase id = (f.insert id a).erase id := hstart
        _ = f.erase id := f.erase_insert id a
        _ = f := KeyMap.erase_of_get? hnew

theorem Deploying.restores {e : EngineError} {f g : KeyMap α} (h : Deploying spec past (.error e))
    (hleads : Leads Removes f past g) : g = f := by
  cases h with
  | unfetched h => exact h.keeps hleads
  | fetched hfetch hlaunch =>
      obtain ⟨f₁, hfirst, hsecond⟩ := leads_append.1 hleads
      exact (hlaunch.restores hsecond).trans (hfetch.keeps hfirst)

/-! ## A task to deploy -/

/-- No pull has failed, and a container was created and started. -/
def AllWell (spec : ContainerSpec) (past : List (Asked Action.Reply)) : Prop :=
  (∀ e, ⟨.engine (.pull spec.image), .error e⟩ ∉ past) ∧
    ∃ id, ⟨.engine (.create spec.createRequest), .ok id⟩ ∈ past ∧
      ⟨.engine (.start id), .ok ()⟩ ∈ past

theorem Fetching.pull_failed_iff {image : String} {policy : PullPolicy}
    {result : Except EngineError Bool} (h : Fetching image policy past result) (e : EngineError) :
    ⟨.engine (.pull image), .error e⟩ ∈ past ↔ result = .error e := by
  cases h with
  | unwanted | present => simp
  | missing _ pulled | wanted pulled => cases pulled <;> simp [Except.map, eq_comm]

/-- A call that has the image pulled, or the container created or started, has failed like this. -/
def FailedFor (spec : ContainerSpec) (past : List (Asked Action.Reply)) (e : EngineError) : Prop :=
  ⟨.engine (.pull spec.image), .error e⟩ ∈ past ∨
    ⟨.engine (.create spec.createRequest), .error e⟩ ∈ past ∨
      ∃ id, ⟨.engine (.start id), .error e⟩ ∈ past

/-- A report of a deployment that came to its end: the container that was created and started, what
it was made of, and whether the image was pulled for it. -/
structure Announces (spec : ContainerSpec) (past : List (Asked Action.Reply)) (r : TaskResult) :
    Prop where
  success : r.success = true
  container : ∃ id, r.containerId = some id ∧
    ⟨.engine (.create spec.createRequest), .ok id⟩ ∈ past ∧ ⟨.engine (.start id), .ok ()⟩ ∈ past
  message : r.message = "container deployed"
  pulled : ∃ pulled, r.data.get? "pulled" = some (.bool pulled) ∧
    (pulled = true ↔ Pulls spec.image past)
  image : r.data.get? "image" = some (.string spec.image)
  named : ∀ name, spec.name = some name → name ≠ "" → r.data.get? "name" = some (.string name)
  unnamed : (∀ name ∈ spec.name, name = "") → r.data.get? "name" = some .null

theorem get?_deployed (spec : ContainerSpec) (id : String) (pulled : Bool) (key : String) :
    (deployed spec id pulled).data.get? key =
      if key = "pulled" then some (.bool pulled)
      else if key = "name" then some (.ofText? (Text.nonEmpty? spec.name))
      else if key = "image" then some (.string spec.image)
      else none := by
  simp only [deployed, Json.ofMembers, Json.get?, List.foldl_cons, List.foldl_nil,
    Entries.get?_insert]
  rfl

theorem deployed_announces {id : String} {pulled : Bool}
    (hcreate : ⟨.engine (.create spec.createRequest), .ok id⟩ ∈ past)
    (hstart : ⟨.engine (.start id), .ok ()⟩ ∈ past)
    (hpulled : pulled = true ↔ Pulls spec.image past) :
    Announces spec past (deployed spec id pulled) where
  success := rfl
  container := ⟨id, rfl, hcreate, hstart⟩
  message := rfl
  pulled := ⟨pulled, get?_deployed .., hpulled⟩
  image := get?_deployed ..
  named name hname hne := by
    have hkept : Text.nonEmpty? spec.name = some name := by simp [Text.nonEmpty?, hname, hne]
    rw [get?_deployed, hkept]
    rfl
  unnamed hempty := by
    have hnone : Text.nonEmpty? spec.name = none := by simpa [Text.nonEmpty?] using hempty
    rw [get?_deployed, hnone]
    rfl

/-- If all goes well, the deployment tells the new container, and whether the image was pulled. -/
theorem Deploying.of_ok {r : TaskResult} (h : Deploying spec past (.ok r)) :
    AllWell spec past ∧ Announces spec past r := by
  cases h with
  | @fetched first _ pulled _ hfetch hlaunch =>
      have hcontainer := hlaunch.of_container
      cases hlaunch with
      | started id =>
          refine ⟨⟨?_, id, by simp, by simp⟩, deployed_announces (by simp) (by simp) ?_⟩
          · intro e hmem
            rw [mem_first_iff hcontainer rfl, hfetch.pull_failed_iff] at hmem
            cases hmem
          · rw [pulls_append hcontainer]
            exact hfetch.pulled_iff

/-- The reason for a failure is a call that has to succeed, and never how the removal has ended. -/
theorem Deploying.of_error {e : EngineError} (h : Deploying spec past (.error e)) :
    ¬ AllWell spec past ∧ FailedFor spec past e := by
  cases h with
  | unfetched h =>
      have hpull := (h.pull_failed_iff e).2 rfl
      exact ⟨fun hwell => hwell.1 e hpull, .inl hpull⟩
  | fetched hfetch hlaunch =>
      cases hlaunch with
      | uncreated _ =>
          refine ⟨?_, .inr (.inl (by simp))⟩
          rintro ⟨-, id, hcreate, -⟩
          rw [mem_second_iff hfetch.of_image rfl] at hcreate
          simp at hcreate
      | unstarted id _ _ =>
          refine ⟨?_, .inr (.inr ⟨id, by simp⟩)⟩
          rintro ⟨-, id', -, hstart⟩
          rw [mem_second_iff hfetch.of_image rfl] at hstart
          simp at hstart

/-- A task to deploy has the image pulled just if its policy says so, creates a container once the
image is there, and starts it once it is created; a container that does not start is removed, and
nothing else follows. The task succeeds just if all of this does, and then it tells the new
container and whether the image was pulled. Otherwise it fails with the text of what has failed
first, in the name of the container that the task came with; and if removing by force works, the
containers of the engine are what they were before. -/
theorem execute_allOrNothing (answer : σ → (a : Action) → a.Reply × σ) (s : σ)
    (stopTimeoutSecs : Nat) {task : Task} {spec : ContainerSpec} (htype : task.type = .deploy)
    (hspec : task.spec = some spec) :
    let past := (execute task stopTimeoutSecs).history answer s
    let result := ((execute task stopTimeoutSecs).run answer s).1
    (∃ r, Deploying spec past r ∧ result = concluded task r) ∧
    (Pulls spec.image past ↔ Wanted spec.image spec.pullPolicy past) ∧
    (result.success = true ↔ AllWell spec past) ∧
    (result.success = true → Announces spec past result) ∧
    (result.success = false → ∃ e, FailedFor spec past e ∧
      result.containerId = task.containerId ∧ result.message = e.message ∧ result.data = .null) ∧
    ∀ {α : Type} (containers : σ → KeyMap α), Keeps Removes answer containers →
      result.success = false →
      containers ((execute task stopTimeoutSecs).run answer s).2 = containers s := by
  intro past result
  have hdeploying : Deploying spec past ((deploy spec).run answer s).1 := by
    have hpast : past = (deploy spec).history answer s := by
      show (execute task stopTimeoutSecs).history answer s = _
      rw [execute_deploy stopTimeoutSecs htype hspec, conclude_history]
    rw [hpast]
    exact deploy_deploys (Program.yields_run answer _ s)
  have hresult : result = concluded task ((deploy spec).run answer s).1 := by
    show ((execute task stopTimeoutSecs).run answer s).1 = _
    rw [execute_deploy stopTimeoutSecs htype hspec, conclude_run]
  refine ⟨⟨_, hdeploying, hresult⟩, hdeploying.pulls_iff, ?_⟩
  have hrestores : ∀ {α : Type} (containers : σ → KeyMap α), Keeps Removes answer containers →
      Leads Removes (containers s) past
        (containers ((execute task stopTimeoutSecs).run answer s).2) := fun _ hkeeps =>
    hkeeps.leads (execute_asking task stopTimeoutSecs) s
  generalize ((deploy spec).run answer s).1 = r at hdeploying hresult
  cases r with
  | ok r =>
      obtain ⟨hwell, htold⟩ := hdeploying.of_ok
      replace hresult : result = r := hresult
      have hsuccess : result.success = true := hresult ▸ htold.success
      refine ⟨iff_of_true hsuccess hwell, fun _ => hresult ▸ htold, ?_, ?_⟩
      · exact fun hfailed => Bool.noConfusion (hsuccess.symm.trans hfailed)
      · exact fun _ _ hfailed => Bool.noConfusion (hsuccess.symm.trans hfailed)
  | error e =>
      obtain ⟨hnot, hfor⟩ := hdeploying.of_error
      have hfailed : result.success = false := congrArg TaskResult.success hresult
      refine ⟨?_, ?_, fun _ => ⟨e, hfor, ?_⟩, ?_⟩
      · rw [hfailed]
        exact iff_of_false Bool.false_ne_true hnot
      · exact fun hsuccess => Bool.noConfusion (hsuccess.symm.trans hfailed)
      · rw [hresult]
        exact ⟨rfl, rfl, rfl⟩
      · exact fun containers hkeeps _ => hdeploying.restores (hrestores containers hkeeps)

/-! The image is pulled and the container created, but its port is taken. -/

/-- An engine on which every port is taken, and whose next container is `new-0`. -/
def crowdedEngine (f : KeyMap Unit) : (call : EngineCall) → call.Reply × KeyMap Unit
  | .pull _ | .inspectImage _ => (.ok (), f)
  | .create _ =>
    if f.contains "new-0" then (.error (.unavailable "full"), f)
    else (.ok "new-0", f.insert "new-0" ())
  | .start id => (.error (.operation "start" id "port is taken"), f)
  | .remove id _ _ => (.ok (), f.erase id)
  | _ => (.error (.unavailable "busy"), f)

theorem crowdedEngine_removes : Keeps Removes (onlyEngine crowdedEngine) id := by
  refine keeps_onlyEngine fun f c => ?_
  cases c with
  | create request =>
      cases hnew : f.get? "new-0" <;> simp [Removes, crowdedEngine, KeyMap.contains, hnew]
  | remove id force volumes => cases force <;> trivial
  | pull _ | inspectImage _ | start _ => rfl
  | _ => trivial

def deployWeb : Task :=
  { id := "t1", type := .deploy, hostId := none, containerId := some "old", force := false
    timeoutSecs := none, result := none
    spec := some
      { image := "nginx:1.25", name := none, env := ∅, ports := [], command := none
        workingDir := none, user := none, restartPolicy := .no, volumes := []
        pullPolicy := .always } }

/-- The task fails in the name of its own container, for the reason for which the new one did not
start, and no other container is there than before. -/
theorem execute_allOrNothing_crowded :
    let engine := onlyEngine crowdedEngine
    let before : KeyMap Unit := KeyMap.insert ∅ "db" ()
    Keeps Removes engine id ∧
    ((execute deployWeb 10).run engine before).1 =
      .failed (some "old") "start failed for new-0: port is taken" ∧
    Pulls "nginx:1.25" ((execute deployWeb 10).history engine before) ∧
    ((execute deployWeb 10).run engine before).2 = before := by
  intro engine before
  obtain ⟨-, hpulls, -, -, -, hrestores⟩ :=
    execute_allOrNothing engine before 10 (show deployWeb.type = .deploy from rfl) rfl
  refine ⟨crowdedEngine_removes, rfl, hpulls.2 (.inl rfl), ?_⟩
  exact hrestores id crowdedEngine_removes rfl

end HostAgent.Tasks
