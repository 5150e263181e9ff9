import HostAgent.World.Rehearsal

/-!
# The command line

`host-agent` reads the settings of the agent and prints them. With the names of two
files, which hold the scripts of the engine and of the central server in JSON, it
rehearses a run among them: it prints what the agent logs, and what failed. All
further arguments are texts that the agent has to log before it is told to stop.
-/

namespace HostAgent.CommandLine

/-- The variables that the agent reads. -/
def variableNames : List String :=
  ["AGENT_CONFIG_FILE", "NODE_NAME"] ++
    Settings.names.map fun name => "AGENT_" ++ String.ofList (name.toList.map Char.toUpper)

def environment : IO Environment := do
  let found ← variableNames.mapM fun name => do return (← IO.getEnv name).map (name, ·)
  return found.filterMap id

/-- The text of a file, if there is one. -/
def readFile? (name : String) : IO (Option String) := do
  try return some (← IO.FS.readFile name) catch _ => return none

/-- The files that the settings may be in. -/
def settingFiles (env : Environment) : IO (List (String × String)) := do
  match env.get? "AGENT_CONFIG_FILE" with
  | none => return []
  | some name =>
    let names := name :: SettingFormat.extensions.map fun e => name ++ "." ++ e.1
    let found ← names.mapM fun name => do return (← readFile? name).map (name, ·)
    return found.filterMap id

def script (name : String) : IO Script := do
  match Json.parse (← IO.FS.readFile name) with
  | .ok j => return .ofJson j
  | .error _ => throw (IO.userError (name ++ " is not JSON"))

/-- Print why a run failed; the exit code. -/
def finish (failure : Option Failure) : IO UInt32 := do
  match failure with
  | none => return 0
  | some f =>
    for line in Failure.report f.chain do IO.eprintln line
    return 1

end HostAgent.CommandLine

open HostAgent CommandLine

def main (args : List String) : IO UInt32 := do
  let env ← environment
  let files ← settingFiles env
  let file? (name : String) : Option String := Entries.get? name files
  match args with
  | engine :: central :: awaited =>
    let rehearsal : Rehearsal :=
      { env, file?, isPresent := (· == Rehearsal.localSocket)
        engine := ← script engine, central := ← script central, awaited }
    let (failure, host) := rehearsal.run
    for (hostId, event) in (host.map (·.events.reverse)).getD [] do
      IO.println (event.entry hostId).toJson.render
    finish failure
  | _ =>
    match Settings.load file? env with
    | .ok settings =>
      IO.println settings.toJson.render
      return 0
    | .error e => finish (some (.settings e))
