import HostAgent.World.Schedule
import HostAgent.World.Script

/-!
# A host among scripted servers

An engine and a central server that both answer from a script, as surroundings
of the agent. Every call of the agent is carried out by its requests. A request
that gets no answer ever leaves the call that made it without a reply.
-/

namespace HostAgent

structure ScriptedHost where
  session : CentralSession
  api : EngineApi
  central : ScriptedCentral
  engine : ScriptedEngine
  /-- What the subscription has still to yield; nothing if it was not asked yet. -/
  subscription : Option (List (Except EngineError LifecycleEvent))
  health : HealthRegistry
  series : Series
  /-- Events logged, newest first. -/
  events : List (String × LogEvent)
  /-- Lines logged, newest first. -/
  lines : List String

namespace ScriptedHost

def start (session : CentralSession) (api : EngineApi) (central : ScriptedCentral)
    (engine : ScriptedEngine) : ScriptedHost :=
  { session, api, central, engine, subscription := none, health := .initial, series := .initial
    events := [], lines := [] }

/-- Requests to the engine. -/
def runApi {α : Type} (h : ScriptedHost) (w : ApiWork α) : α × ScriptedHost :=
  let (a, engine) := { h.engine with isStuck := false }.run w
  (a, { h with engine })

/-- A call to the central server at some time. -/
def runCentral (h : ScriptedHost) (time : Nat) (call : CentralCall) : call.Reply × ScriptedHost :=
  let (r, central) :=
    { h.central with isStuck := false, now := .ofMillis time }.run (h.session.exchange call)
  (r, { h with central })

/-- The next item of the subscription, which is asked for its items first. -/
def nextItem (h : ScriptedHost) :
    Option (Except EngineError LifecycleEvent) × ScriptedHost :=
  let take (items : List (Except EngineError LifecycleEvent)) (h : ScriptedHost) :=
    (items.head?, { h with subscription := some (items.drop 1) })
  match h.subscription with
  | some items => take items h
  | none =>
    let (items, h) := h.runApi h.api.events
    take items h

/-- Take a notice. -/
def heed (h : ScriptedHost) (time : Nat) : Notice → ScriptedHost
  | .health change => { h with health := h.health.apply (Int64.ofNat (time / 1000)) change }
  | .series change => { h with series := h.series.apply change }
  | .event hostId event =>
    { h with
      events := (hostId, event) :: h.events
      lines := event.text :: event.name :: h.lines }
  | .line text => { h with lines := text :: h.lines }

def finish (h : ScriptedHost) (time : Nat) : (a : Action) → a.Reply × ScriptedHost
  | .engine call => h.runApi (h.api.exchange call)
  | .central call => h.runCentral time call
  | .subscribe => ((), { h with subscription := none })
  | .nextEvent => h.nextItem
  | .sleep _ => ((), h)
  | .sleepUntil _ => ((), h)
  | .now => (.ofMillis time, h)
  | .measure => (⟨.ofFloat 0, 0, .ofFloat 0, .epoch⟩, h)
  | .notice n => ((), h.heed time n)

/-- An action takes as long as its waits, and for ever if a request gets no answer. Nothing else
is done before it ends. -/
def begin_ (h : ScriptedHost) (time : Nat) (a : Action) : ScriptedHost × Option Nat :=
  match a with
  | .sleep d => (h, some d.ticks)
  | .sleepUntil instant => (h, some (instant.ticks - time))
  | a =>
    let after := (h.finish time a).2
    if after.engine.isStuck then
      ({ h with engine := { after.engine with isStuck := false } }, none)
    else if after.central.isStuck then
      ({ h with central := { after.central with isStuck := false } }, none)
    else
      match a with
      | .central _ => (h, some (after.central.now.ticks - time))
      | _ => (h, some 0)

def surroundings : Surroundings ScriptedHost := ⟨begin_, finish⟩

end ScriptedHost

end HostAgent
