import HostAgent.Host
import HostAgent.IgnoreEntry
import HostAgent.Proofs.Json.Stability
import HostAgent.Proofs.Time.Written
import HostAgent.Task

/-!
# The models on the wire

Everything that goes to or comes from the central server is decoded again from
what is written of it. However a text spells a value out, with records as arrays,
variants as objects, members that are not known, keys that occur twice or any
spelling of a time: the value that was decoded has one text, and that text stands
for the value.

Only what a result holds as its data is kept as it is. A floating-point number in
it may be written in another way than it was, so nothing is said about data with
such numbers.

## Main results

* `WireModel.stable`: each model is stable.
* `WireModel.decodes_again`: what is decoded is decoded again from its own text.
-/

namespace HostAgent

open Json (Again Stable Faithful always whenSome)

variable {k : Nat}

/-! ## Variants and times -/

theorem again_timestamp (depth : Nat) (t : Timestamp) :
    Again Timestamp.decoder Timestamp.toJson depth t :=
  Json.again_readText Timestamp.read?_render depth t

theorem again_containerStatus : ∀ depth s,
    Again ContainerStatus.decoder ContainerStatus.toJson depth s :=
  Json.again_variant fun s => by cases s <;> rfl

theorem again_hostStatus : ∀ depth s, Again HostStatus.decoder HostStatus.toJson depth s :=
  Json.again_variant fun s => by cases s; rfl

theorem again_restartPolicy : ∀ depth p, Again RestartPolicy.decoder RestartPolicy.toJson depth p :=
  Json.again_variant fun p => by cases p <;> rfl

theorem again_pullPolicy : ∀ depth p, Again PullPolicy.decoder PullPolicy.toJson depth p :=
  Json.again_variant fun p => by cases p <;> rfl

theorem again_taskType : ∀ depth t, Again TaskType.decoder TaskType.toJson depth t :=
  Json.again_variant fun t => by cases t <;> rfl

/-! ## Values without floating-point numbers -/

section FloatFree

open Json (isFloatFree_record isFloatFree_array isFloatFree_ofKeyMap forall_mem_always
  forall_mem_whenSome)

theorem floatFree_portMapping (p : PortMapping) : p.toJson.isFloatFree = true := by
  refine isFloatFree_record ?_
  simp only [List.forall_mem_cons, forall_mem_always]
  exact ⟨rfl, rfl, rfl, nofun⟩

theorem floatFree_portSpec (p : PortSpec) : p.toJson.isFloatFree = true := by
  refine isFloatFree_record ?_
  simp only [List.forall_mem_cons, forall_mem_always, forall_mem_whenSome]
  exact ⟨rfl, fun _ _ => rfl, fun _ _ => rfl, fun _ _ => rfl, nofun⟩

theorem floatFree_volumeSpec (v : VolumeSpec) : v.toJson.isFloatFree = true := by
  refine isFloatFree_record ?_
  simp only [List.forall_mem_cons, forall_mem_always]
  exact ⟨rfl, rfl, rfl, nofun⟩

theorem floatFree_containerSpec (s : ContainerSpec) : s.toJson.isFloatFree = true := by
  refine isFloatFree_record ?_
  simp only [List.forall_mem_cons, forall_mem_always, forall_mem_whenSome]
  exact ⟨rfl, fun _ _ => rfl, isFloatFree_ofKeyMap fun _ => rfl,
    isFloatFree_array fun p _ => floatFree_portSpec p,
    fun _ _ => isFloatFree_array fun _ _ => rfl, fun _ _ => rfl, fun _ _ => rfl, rfl,
    isFloatFree_array fun v _ => floatFree_volumeSpec v, rfl, nofun⟩

theorem floatFree_containerRecord (r : ContainerRecord) : r.toJson.isFloatFree = true := by
  refine isFloatFree_record ?_
  simp only [List.forall_mem_cons, forall_mem_always, forall_mem_whenSome]
  exact ⟨rfl, rfl, rfl, rfl, rfl, isFloatFree_array fun p _ => floatFree_portMapping p,
    isFloatFree_ofKeyMap fun _ => rfl, fun _ _ => rfl, nofun⟩

theorem floatFree_hostRecord (h : HostRecord) : h.toJson.isFloatFree = true := by
  refine isFloatFree_record ?_
  simp only [List.forall_mem_cons, forall_mem_always]
  exact ⟨rfl, rfl, rfl, rfl, rfl, rfl, rfl, nofun⟩

theorem floatFree_ignoreEntry (e : IgnoreEntry) : e.toJson.isFloatFree = true := by
  refine isFloatFree_record ?_
  simp only [List.forall_mem_cons, forall_mem_always]
  exact ⟨rfl, rfl, rfl, nofun⟩

theorem floatFree_taskResult {r : TaskResult} (h : r.data.isFloatFree = true) :
    r.toJson.isFloatFree = true := by
  refine isFloatFree_record ?_
  simp only [List.forall_mem_cons, forall_mem_always, forall_mem_whenSome]
  exact ⟨rfl, fun _ _ => rfl, rfl, h, nofun⟩

theorem floatFree_task {t : Task} (h : ∀ r ∈ t.result, r.data.isFloatFree = true) :
    t.toJson.isFloatFree = true := by
  refine isFloatFree_record ?_
  simp only [List.forall_mem_cons, forall_mem_always, forall_mem_whenSome]
  exact ⟨rfl, rfl, fun _ _ => rfl, fun _ _ => rfl, fun s _ => floatFree_containerSpec s, rfl,
    fun _ _ => rfl, fun r hr => floatFree_taskResult (h r hr), nofun⟩

end FloatFree

/-! ## Records -/

theorem stable_string : Stable k Json.Decoder.string Json.string := .of_again Json.again_string

theorem stable_bool : Stable k Json.Decoder.bool Json.bool := .of_again Json.again_bool

theorem stable_uint16 : Stable k Json.Decoder.uint16 fun n => .nat n.toNat :=
  .of_again Json.again_uint16

theorem stable_env : Stable (k + 1) (.keyMap .string) (Json.ofKeyMap .string) :=
  .keyMap stable_string

theorem stable_portMapping : Stable (k + 1) PortMapping.decoder PortMapping.toJson := by
  refine .record (by decide) ?_
  unfold PortMapping.fields
  refine .seq (.seq (.map (.required stable_uint16) ?_) (.required stable_uint16))
    (.required stable_string)
  intros
  rfl

theorem stable_portSpec : Stable (k + 1) PortSpec.decoder PortSpec.toJson := by
  refine .record (by decide) ?_
  unfold PortSpec.fields
  refine .seq (.seq (.seq (.map (.required stable_uint16) ?_) (.optional stable_uint16 nofun))
    (.optional stable_string nofun)) (.optional stable_string nofun)
  intros
  simp [PortSpec.toJson, Json.record]

theorem stable_volumeSpec : Stable (k + 1) VolumeSpec.decoder VolumeSpec.toJson := by
  refine .record (by decide) ?_
  unfold VolumeSpec.fields
  refine .seq (.seq (.map (.required stable_string) ?_) (.required stable_string))
    (.withDefault stable_bool fun depth _ => Json.again_bool depth false)
  intros
  rfl

theorem stable_containerSpec : Stable (k + 3) ContainerSpec.decoder ContainerSpec.toJson := by
  refine .record (by decide) ?_
  unfold ContainerSpec.fields
  refine .seq (.seq (.seq (.seq (.seq (.seq (.seq (.seq (.seq (.map (.required stable_string) ?_)
    (.optional stable_string nofun))
    (.withDefault stable_env fun _ => Json.again_emptyMap))
    (.withDefault (.list stable_portSpec) fun _ => Json.again_nil))
    (.optional (.list stable_string) nofun))
    (.optional stable_string nofun))
    (.optional stable_string nofun))
    (.withDefault (.of_again again_restartPolicy) fun depth _ => again_restartPolicy depth .no))
    (.withDefault (.list stable_volumeSpec) fun _ => Json.again_nil))
    (.withDefault (.of_again again_pullPolicy) fun depth _ => again_pullPolicy depth .ifNotPresent)
  intros
  simp [ContainerSpec.toJson, Json.record]

theorem stable_containerRecord : Stable (k + 3) ContainerRecord.decoder ContainerRecord.toJson := by
  refine .record (by decide) ?_
  unfold ContainerRecord.fields
  refine .seq (.seq (.seq (.seq (.seq (.seq (.seq (.map (.required stable_string) ?_)
    (.required stable_string))
    (.required stable_string))
    (.required (.of_again again_containerStatus)))
    (.required stable_string))
    (.withDefault (.list stable_portMapping) fun _ => Json.again_nil))
    (.withDefault stable_env fun _ => Json.again_emptyMap))
    (.optionalNamed (.of_again again_timestamp) fun _ => Json.string_ne_null _)
  intros
  simp [ContainerRecord.toJson, Json.record]

theorem stable_hostRecord : Stable (k + 1) HostRecord.decoder HostRecord.toJson := by
  refine .record (by decide) ?_
  unfold HostRecord.fields
  refine .seq (.seq (.seq (.seq (.seq (.seq (.map (.required stable_string) ?_)
    (.required stable_string))
    (.required stable_string))
    (.required (.of_again Json.again_uint32)))
    (.required (.of_again Json.again_uint64)))
    (.required (.of_again again_hostStatus)))
    (.required stable_string)
  intros
  rfl

theorem stable_ignoreEntry : Stable (k + 1) IgnoreEntry.decoder IgnoreEntry.toJson := by
  refine .record (by decide) ?_
  unfold IgnoreEntry.fields
  refine .seq (.seq (.map (.required stable_string) ?_)
    (.withDefault stable_string fun depth _ => Json.again_string depth ""))
    (.required (.of_again again_timestamp))
  intros
  rfl

theorem stable_taskResult : Stable (k + 1) TaskResult.decoder TaskResult.toJson := by
  refine .record (by decide) ?_
  unfold TaskResult.fields
  refine .seq (.seq (.seq (.map (.required stable_bool) ?_)
    (.optional stable_string nofun))
    (.required stable_string))
    (.withDefault Json.stable_any fun _ _ => ⟨trivial, rfl⟩)
  intros
  simp [TaskResult.toJson, Json.record]

theorem stable_task : Stable (k + 4) Task.decoder Task.toJson := by
  refine .record (by decide) ?_
  unfold Task.fields
  refine .seq (.seq (.seq (.seq (.seq (.seq (.seq (.map (.required stable_string) ?_)
    (.required (.of_again again_taskType)))
    (.optional stable_string nofun))
    (.optional stable_string nofun))
    (.optional stable_containerSpec fun _ => Json.record_ne_null _))
    (.withDefault stable_bool fun depth _ => Json.again_bool depth false))
    (.optional (.of_again Json.again_uint64) nofun))
    (.optional stable_taskResult fun _ => Json.record_ne_null _)
  intros
  simp [Task.toJson, Json.record]

/-! ## The models -/

/-- What is exchanged with the central server. -/
inductive WireModel
  | task
  | taskResult
  | containerSpec
  | portSpec
  | volumeSpec
  | containerRecord
  | portMapping
  | hostRecord
  | ignoreEntry
  | taskType
  | restartPolicy
  | pullPolicy
  | containerStatus
  | hostStatus
deriving DecidableEq, Repr

namespace WireModel

@[reducible] def Value : WireModel → Type
  | task => Task
  | taskResult => TaskResult
  | containerSpec => ContainerSpec
  | portSpec => PortSpec
  | volumeSpec => VolumeSpec
  | containerRecord => ContainerRecord
  | portMapping => PortMapping
  | hostRecord => HostRecord
  | ignoreEntry => IgnoreEntry
  | taskType => TaskType
  | restartPolicy => RestartPolicy
  | pullPolicy => PullPolicy
  | containerStatus => ContainerStatus
  | hostStatus => HostStatus

def decoder : (m : WireModel) → Json.Decoder m.Value
  | task => Task.decoder
  | taskResult => TaskResult.decoder
  | containerSpec => ContainerSpec.decoder
  | portSpec => PortSpec.decoder
  | volumeSpec => VolumeSpec.decoder
  | containerRecord => ContainerRecord.decoder
  | portMapping => PortMapping.decoder
  | hostRecord => HostRecord.decoder
  | ignoreEntry => IgnoreEntry.decoder
  | taskType => TaskType.decoder
  | restartPolicy => RestartPolicy.decoder
  | pullPolicy => PullPolicy.decoder
  | containerStatus => ContainerStatus.decoder
  | hostStatus => HostStatus.decoder

def toJson : (m : WireModel) → m.Value → Json
  | task => Task.toJson
  | taskResult => TaskResult.toJson
  | containerSpec => ContainerSpec.toJson
  | portSpec => PortSpec.toJson
  | volumeSpec => VolumeSpec.toJson
  | containerRecord => ContainerRecord.toJson
  | portMapping => PortMapping.toJson
  | hostRecord => HostRecord.toJson
  | ignoreEntry => IgnoreEntry.toJson
  | taskType => TaskType.toJson
  | restartPolicy => RestartPolicy.toJson
  | pullPolicy => PullPolicy.toJson
  | containerStatus => ContainerStatus.toJson
  | hostStatus => HostStatus.toJson

/-- The data of any kind that a value holds. Only results hold some. -/
def data : (m : WireModel) → m.Value → List Json
  | task, t => t.result.toList.map TaskResult.data
  | taskResult, r => [r.data]
  | _, _ => []

/-- Each model is stable at a depth of four, which is what a task needs whose spec leaves out its
ports. -/
theorem stable (m : WireModel) : Stable 4 m.decoder m.toJson := by
  cases m with
  | task => exact stable_task
  | taskResult => exact stable_taskResult
  | containerSpec => exact stable_containerSpec
  | portSpec => exact stable_portSpec
  | volumeSpec => exact stable_volumeSpec
  | containerRecord => exact stable_containerRecord
  | portMapping => exact stable_portMapping
  | hostRecord => exact stable_hostRecord
  | ignoreEntry => exact stable_ignoreEntry
  | taskType => exact .of_again again_taskType
  | restartPolicy => exact .of_again again_restartPolicy
  | pullPolicy => exact .of_again again_pullPolicy
  | containerStatus => exact .of_again again_containerStatus
  | hostStatus => exact .of_again again_hostStatus

/-- Floating-point numbers are written only if they are in the data. -/
theorem isFloatFree_toJson (m : WireModel) {v : m.Value}
    (h : ∀ j ∈ m.data v, j.isFloatFree = true) : (m.toJson v).isFloatFree = true := by
  cases m with
  | task =>
      refine floatFree_task fun r hr => h _ (List.mem_map_of_mem ?_)
      exact Option.mem_toList.2 hr
  | taskResult => exact floatFree_taskResult (h _ (List.mem_singleton_self _))
  | containerSpec => exact floatFree_containerSpec v
  | portSpec => exact floatFree_portSpec v
  | volumeSpec => exact floatFree_volumeSpec v
  | containerRecord => exact floatFree_containerRecord v
  | portMapping => exact floatFree_portMapping v
  | hostRecord => exact floatFree_hostRecord v
  | ignoreEntry => exact floatFree_ignoreEntry v
  | _ => rfl

end WireModel

/-- What is written of a value is decoded as the value, and written the same again. -/
structure RoundTrips {α : Type} (d : Json.Decoder α) (encode : α → Json) (a : α) : Prop where
  decodes : Json.decodeText d (encode a).render = .ok a
  writes : ∀ b, Json.decodeText d (encode a).render = .ok b → (encode b).render = (encode a).render

theorem Json.Stable.roundTrips {α : Type} {d : Json.Decoder α} {encode : α → Json}
    (hd : Stable k d encode) (hk : k ≤ Json.maxDepth) {text : String} {a : α}
    (h : Json.decodeText d text = .ok a) (hfree : (encode a).isFloatFree = true) :
    RoundTrips d encode a := by
  have hdecodes := hd.decodeText_render hk h hfree
  refine ⟨hdecodes, fun b hb => ?_⟩
  rw [hdecodes] at hb
  rw [Except.ok.inj hb]

/-- Let a text stand for a value of one of the models, or for a list of them, whose data holds no
floating-point number. Then what is written of the value stands for the same value again, and is
written the same again. -/
theorem WireModel.decodes_again (m : WireModel) (text : String) :
    (∀ v, Json.decodeText m.decoder text = .ok v → (∀ j ∈ m.data v, j.isFloatFree = true) →
      RoundTrips m.decoder m.toJson v) ∧
    (∀ vs, Json.decodeText m.decoder.list text = .ok vs →
      (∀ v ∈ vs, ∀ j ∈ m.data v, j.isFloatFree = true) →
        RoundTrips m.decoder.list (fun vs => .array (vs.map m.toJson)) vs) := by
  constructor
  · intro v h hfree
    exact m.stable.roundTrips (by decide) h (m.isFloatFree_toJson hfree)
  · intro vs h hfree
    refine m.stable.list.roundTrips (by decide) h ?_
    exact Json.isFloatFree_array fun v hv => m.isFloatFree_toJson (hfree v hv)

/-- Tasks and results may be arrays, the kind of a task an object, and keys may occur twice. -/
theorem WireModel.decodes_again_arrays :
    let text := "[[\"t\", \x7b\"stop\": null\x7d, null, \"c\", null, true, null, " ++
      "[false, null, \"\\u00e9\", \x7b\"b\": 1, \"a\": -2, \"b\": 18446744073709551615\x7d]]]"
    let data : Json := .object [("a", .int (-2)), ("b", .nat 18446744073709551615)]
    let task : Task :=
      { id := "t", type := .stop, hostId := none, containerId := some "c", spec := none
        force := true, timeoutSecs := none, result := some ⟨false, none, "\u00e9", data⟩ }
    Json.decodeText Task.decoder.list text = .ok [task] ∧ data.isFloatFree = true ∧
      RoundTrips Task.decoder.list (fun tasks => .array (tasks.map Task.toJson)) [task] := by
  intro text data task
  have hread : (Json.decodeText Task.decoder.list text).toOption = some [task] := by decide +kernel
  have hdecode : Json.decodeText Task.decoder.list text = .ok [task] := by
    cases hresult : Json.decodeText Task.decoder.list text with
    | error e =>
        rw [hresult] at hread
        cases hread
    | ok tasks =>
        rw [hresult] at hread
        exact congrArg Except.ok (Option.some.inj hread)
  have hfree : ∀ v ∈ [task], ∀ j ∈ WireModel.task.data v, j.isFloatFree = true := by
    intro v hv j hj
    obtain rfl := List.mem_singleton.1 hv
    obtain rfl := List.mem_singleton.1 hj
    rfl
  exact ⟨hdecode, rfl, (WireModel.task.decodes_again text).2 [task] hdecode hfree⟩

end HostAgent
