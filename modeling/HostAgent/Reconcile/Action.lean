import HostAgent.Text.Blank

/-!
# What an event means

The engine reports what happens to a container by the name of an action, with
details after a colon. An action says that the container has to be synced again,
that it is gone, or nothing that matters here. Syncing looks at the container as
it is then, so it makes no difference whether it comes up or goes down.
-/

namespace HostAgent

inductive EventAction
  /-- Sync again; a container that is new leaves the ignore list first. -/
  | resync (clearIgnore : Bool)
  | gone
  | ignore
deriving DecidableEq, Repr

namespace EventAction

/-- The name of an action without its details. -/
def verb (action : String) : String :=
  String.ofList (Text.trimBoth Text.isBlank (action.toList.takeWhile (· != ':')))

/-- What an event means. -/
def ofAction (action : String) : EventAction :=
  match verb action with
  | "create" => .resync true
  | "start" | "restart" | "unpause" | "stop" | "pause" | "die" | "kill" => .resync false
  | "destroy" | "remove" => .gone
  | _ => .ignore

end EventAction

end HostAgent
