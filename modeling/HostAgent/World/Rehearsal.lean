import HostAgent.Failure
import HostAgent.World.ScriptedHost

/-!
# Rehearsals

A rehearsal is a whole run of the agent, from its environment to its end, among
scripted servers. The agent runs until given texts have been logged and then is told
to stop; or it fails.
-/

namespace HostAgent

structure Rehearsal where
  env : Environment
  /-- The text of a file. -/
  file? : String → Option String
  /-- Is there anything under a path? -/
  isPresent : String → Bool
  engine : Script
  central : Script
  /-- The agent is told to stop when all of these were logged. -/
  awaited : List String

namespace Rehearsal

/-- The socket of the local engine. -/
def localSocket : String := "docker.sock"

/-- How long texts are awaited, in milliseconds. -/
def longest : Nat := 4000

/-- The settings of the agent and the host it runs on. -/
def prepare (r : Rehearsal) : Except Failure (AgentSettings × ScriptedHost) := do
  let settings ← (Settings.load r.file? r.env).mapError .settings
  let endpoint ← settings.endpoint.mapError .settings
  let api ← (EngineApi.connect localSocket r.isPresent endpoint).mapError .engineClient
  let session ← (CentralSession.open_ settings.central).mapError .centralClient
  let host := ScriptedHost.start session api
    (.start r.central settings.central.ignoreLifetime) (.start r.engine)
  return (settings.agent endpoint.label, { host with lines := ["Agent configured"] })

/-- Have the texts been logged? -/
def isEnough (r : Rehearsal) (s : Schedule ScriptedHost) : Bool :=
  r.awaited.all fun text => s.world.lines.any (Text.occursIn text)

/-- The host in the end, if the agent got as far as that, and why the run failed. -/
def run (r : Rehearsal) : Option Failure × Option ScriptedHost :=
  match r.prepare with
  | .error e => (some e, none)
  | .ok (settings, host) =>
    match ScriptedHost.surroundings.runAlone (Agent.startup settings none) host 0 with
    | (none, host, _) => (none, some host)
    | (some (.error e), host, _) => (some (.startup e), some host)
    | (some (.ok record), host, time) =>
      let begun := Schedule.begun ScriptedHost.surroundings record settings host time
      let running := Schedule.advance r.isEnough (some longest) Schedule.patience begun
      (none, some (running.shutdown record).world)

end Rehearsal

end HostAgent
