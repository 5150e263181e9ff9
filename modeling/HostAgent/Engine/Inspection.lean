import HostAgent.Engine.Ports

/-!
# Inspected containers

What the engine says about one container, read as a `ContainerDetail`. Every
member may be missing; what it says about a container without an id is about the
one that was asked for.
-/

namespace HostAgent

open Json (Decoder Fields)

/-- The environment of a list of assignments `key=value`. Entries without `=` do not count, and of
two with one key the later does. -/
def environment (entries : List String) : KeyMap String :=
  .ofList (entries.filterMap fun entry =>
    match Text.cutAt '=' entry.toList with
    | (key, some value) => some (String.ofList key, String.ofList value)
    | (_, none) => none)

/-- The name of a container without the slashes in front. -/
def bareName (name : Option String) : String := Text.dropLeading '/' (name.getD "")

namespace Inspection

/-- What the engine calls the state of a container. -/
def states : List String :=
  ["", "created", "running", "paused", "restarting", "removing", "exited", "dead"]

def state : Decoder StateFlags :=
  Fields.decodeObject <|
    (fun (_ : Option Unit) running paused restarting dead =>
      ⟨running.getD false, paused.getD false, restarting.getD false, dead.getD false⟩) <$>
      Fields.optionalNamed "Status" (.variant (states.map (·, ())))
    <*> Fields.optionalNamed "Running" Decoder.bool
    <*> Fields.optionalNamed "Paused" Decoder.bool
    <*> Fields.optionalNamed "Restarting" Decoder.bool
    <*> Fields.optionalNamed "Dead" Decoder.bool

/-- Image and environment that a container was made with. -/
def config : Decoder (String × KeyMap String) :=
  Fields.decodeObject <|
    (fun image env => (image.getD "", environment (env.getD []))) <$>
      Fields.optionalNamed "Image" Decoder.string
    <*> Fields.optionalNamed "Env" (.list .string)

def network : Decoder (List PortMapping) :=
  Fields.decodeObject <|
    (fun (ports : Option (KeyMap (Option (List PortBinding)))) =>
      (ports.map fun m => portMappings m.entries).getD []) <$>
      Fields.optionalNamed "Ports" (.keyMap (.option (.list PortBinding.decoder)))

/-- The detail of the container that was asked for by an id. -/
def detail (requested : String) : Decoder ContainerDetail :=
  Fields.decodeObject <|
    (fun id name created image state config ports =>
      let made : String × KeyMap String := config.getD ("", ∅)
      { id := id.getD requested
        name := bareName name
        image := if made.1 = "" then image.getD "" else made.1
        state := state.getD .none
        ports := ports.getD []
        env := made.2
        createdAt := created.bind Timestamp.readStrict? }) <$>
      Fields.optionalNamed "Id" Decoder.string
    <*> Fields.optionalNamed "Name" Decoder.string
    <*> Fields.optionalNamed "Created" Decoder.string
    <*> Fields.optionalNamed "Image" Decoder.string
    <*> Fields.optionalNamed "State" state
    <*> Fields.optionalNamed "Config" config
    <*> Fields.optionalNamed "NetworkSettings" network

end Inspection

end HostAgent
