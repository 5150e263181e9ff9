import HostAgent.Engine.Call

/-!
# An engine in memory

The containers and images of an engine that does what its calls promise. A call
on a container that does not exist is answered by `notFound`, starting one that
runs and stopping one that does not by `notModified`; no other call fails, but
for looking at an image that is not there.

## Main results

* `EngineState.ping_state`, `EngineState.inspect_state`: looking changes nothing.
-/

namespace HostAgent

/-- The containers by id, the local images, and how many containers were created. -/
structure EngineState where
  info : SystemInfo
  containers : KeyMap ContainerDetail
  images : KeyMap Unit
  created : Nat
deriving DecidableEq, Repr

namespace EngineState

/-- The id of the next container. -/
def freshId (s : EngineState) : String := "new-" ++ toString s.created

/-- A container that was created and never started. -/
def createdDetail (id : String) (r : CreateRequest) : ContainerDetail :=
  { id, name := r.name.getD "unnamed", image := r.image, state := .none
    ports := [], env := ∅, createdAt := none }

/-- The state with other flags for a container. -/
def setFlags (s : EngineState) (d : ContainerDetail) (state : StateFlags) : EngineState :=
  { s with containers := s.containers.insert d.id { d with state } }

def refs (s : EngineState) : List ContainerRef := s.containers.values.map fun d => ⟨d.id, d.name⟩

/-- The reply to a call, and the state after it. -/
def answer (s : EngineState) : (c : EngineCall) → c.Reply × EngineState
  | .ping => (.ok (), s)
  | .systemInfo => (.ok s.info, s)
  | .list all =>
    (.ok (if all then s.refs
      else (s.containers.values.filter (·.state.running)).map fun d => ⟨d.id, d.name⟩), s)
  | .inspect id =>
    match s.containers.get? id with
    | some d => (.ok d, s)
    | none => (.error (.notFound id), s)
  | .inspectImage image =>
    (if s.images.contains image then .ok () else .error (.imageNotFound image), s)
  | .pull image => (.ok (), { s with images := s.images.insert image () })
  | .create r =>
    let id := s.freshId
    (.ok id, { s with containers := s.containers.insert id (createdDetail id r)
                      created := s.created + 1 })
  | .start id =>
    match s.containers.get? id with
    | none => (.error (.notFound id), s)
    | some d =>
      if d.state.running then (.error (.notModified id), s)
      else (.ok (), s.setFlags d .onlyRunning)
  | .stop id _ =>
    match s.containers.get? id with
    | none => (.error (.notFound id), s)
    | some d =>
      if d.state.running then (.ok (), s.setFlags d .none)
      else (.error (.notModified id), s)
  | .restart id _ =>
    match s.containers.get? id with
    | none => (.error (.notFound id), s)
    | some d => (.ok (), s.setFlags d .onlyRunning)
  | .remove id _ _ =>
    match s.containers.get? id with
    | none => (.error (.notFound id), s)
    | some _ => (.ok (), { s with containers := s.containers.erase id })

@[simp] theorem ping_state (s : EngineState) : (s.answer .ping).2 = s := rfl

@[simp] theorem inspect_state (s : EngineState) (id : String) :
    (s.answer (.inspect id)).2 = s := by
  simp only [answer]
  split <;> rfl

end EngineState

end HostAgent
