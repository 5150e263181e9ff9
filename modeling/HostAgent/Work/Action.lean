import HostAgent.Central.Call
import HostAgent.Engine.Call
import HostAgent.EventLog
import HostAgent.Health.Registry
import HostAgent.Series
import HostAgent.Time.Duration
import HostAgent.Work.Program

/-!
# What the agent does

The questions of the agent's programs: calls to the engine and to the central
server, waiting, the clock, the use of the host, and notices about its own
state. Every part of the agent is a program over these questions, so that all it
does can be seen from outside.
-/

namespace HostAgent

/-- Something the agent tells about itself. -/
inductive Notice
  | health (change : HealthChange)
  | series (change : SeriesChange)
  /-- An event of the log, with the id of the host. -/
  | event (hostId : String) (event : LogEvent)
  /-- A line of the log without an event. -/
  | line (text : String)
deriving Repr

inductive Action
  | engine (call : EngineCall)
  | central (call : CentralCall)
  /-- Open a subscription to the events of the engine in place of the last one. -/
  | subscribe
  /-- Wait for the next item of the subscription. -/
  | nextEvent
  | sleep (duration : Duration)
  | sleepUntil (instant : Duration)
  | now
  /-- Measure the use of the host. -/
  | measure
  | notice (notice : Notice)
deriving Repr

/-- What an action yields. A subscription yields events until it fails or ends. -/
@[reducible] def Action.Reply : Action → Type
  | engine call => call.Reply
  | central call => call.Reply
  | nextEvent => Option (Except EngineError LifecycleEvent)
  | now => Duration
  | measure => HostMetrics
  | subscribe | sleep _ | sleepUntil _ | notice _ => Unit

/-- A program of the agent. -/
abbrev Work (α : Type) : Type := Program Action.Reply α

namespace Work

/-- A single action. -/
def perform (a : Action) : Work a.Reply := .ask a .done

def engine (call : EngineCall) : Work call.Reply := perform (.engine call)

def central (call : CentralCall) : Work call.Reply := perform (.central call)

def subscribe : Work Unit := perform .subscribe

def sleep (d : Duration) : Work Unit := perform (.sleep d)

def now : Work Duration := perform .now

def measureHost : Work HostMetrics := perform .measure

def count (change : SeriesChange) : Work Unit := perform (.notice (.series change))

def health (change : HealthChange) : Work Unit := perform (.notice (.health change))

def log (hostId : String) (event : LogEvent) : Work Unit :=
  perform (.notice (.event hostId event))

def say (text : String) : Work Unit := perform (.notice (.line text))

end Work

end HostAgent
