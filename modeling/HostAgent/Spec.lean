import HostAgent.Container

/-!
# Deployment specs

What a deployment asks for: an image, and how a container of it is set up and
kept running. A spec may leave out everything but the image.
-/

namespace HostAgent

open Json (Decoder Fields always whenSome)

/-! ## Policies -/

/-- When the engine restarts a container by itself. -/
inductive RestartPolicy
  | no
  | always
  | unlessStopped
  | onFailure
deriving DecidableEq, Repr

namespace RestartPolicy

def name : RestartPolicy → String
  | no => "no"
  | always => "always"
  | unlessStopped => "unless-stopped"
  | onFailure => "on-failure"

def all : List RestartPolicy := [no, always, unlessStopped, onFailure]

def decoder : Decoder RestartPolicy := .variant (all.map fun p => (p.name, p))

def toJson (p : RestartPolicy) : Json := .string p.name

end RestartPolicy

/-- When an image is pulled before a container is created from it. -/
inductive PullPolicy
  | never
  | ifNotPresent
  | always
deriving DecidableEq, Repr

namespace PullPolicy

def name : PullPolicy → String
  | never => "never"
  | ifNotPresent => "if-not-present"
  | always => "always"

def all : List PullPolicy := [never, ifNotPresent, always]

def decoder : Decoder PullPolicy := .variant (all.map fun p => (p.name, p))

def toJson (p : PullPolicy) : Json := .string p.name

end PullPolicy

/-! ## Parts of a spec -/

/-- A port to publish. -/
structure PortSpec where
  containerPort : UInt16
  hostPort : Option UInt16
  hostIp : Option String
  protocol : Option String
deriving DecidableEq, Repr

namespace PortSpec

def fields : Fields PortSpec :=
  .mk <$> Fields.required "container_port" Decoder.uint16
    <*> Fields.optional "host_port" Decoder.uint16
    <*> Fields.optional "host_ip" Decoder.string
    <*> Fields.optional "protocol" Decoder.string

def decoder : Decoder PortSpec := fields.decode

def toJson (p : PortSpec) : Json :=
  .record [
    always "container_port" (.nat p.containerPort.toNat),
    whenSome "host_port" (fun n => .nat n.toNat) p.hostPort,
    whenSome "host_ip" .string p.hostIp,
    whenSome "protocol" .string p.protocol]

end PortSpec

/-- A directory of the host to mount. -/
structure VolumeSpec where
  source : String
  target : String
  readOnly : Bool
deriving DecidableEq, Repr

namespace VolumeSpec

def fields : Fields VolumeSpec :=
  .mk <$> Fields.required "source" Decoder.string
    <*> Fields.required "target" Decoder.string
    <*> Fields.withDefault "read_only" Decoder.bool false

def decoder : Decoder VolumeSpec := fields.decode

def toJson (v : VolumeSpec) : Json :=
  .record [
    always "source" (.string v.source),
    always "target" (.string v.target),
    always "read_only" (.bool v.readOnly)]

end VolumeSpec

/-- A deployment that is asked for. -/
structure ContainerSpec where
  image : String
  name : Option String
  env : KeyMap String
  ports : List PortSpec
  command : Option (List String)
  workingDir : Option String
  user : Option String
  restartPolicy : RestartPolicy
  volumes : List VolumeSpec
  pullPolicy : PullPolicy
deriving DecidableEq, Repr

namespace ContainerSpec

def fields : Fields ContainerSpec :=
  .mk <$> Fields.required "image" Decoder.string
    <*> Fields.optional "name" Decoder.string
    <*> Fields.withDefault "env" (.keyMap .string) ∅
    <*> Fields.withDefault "ports" (.list PortSpec.decoder) []
    <*> Fields.optional "command" (.list .string)
    <*> Fields.optional "working_dir" Decoder.string
    <*> Fields.optional "user" Decoder.string
    <*> Fields.withDefault "restart_policy" RestartPolicy.decoder .no
    <*> Fields.withDefault "volumes" (.list VolumeSpec.decoder) []
    <*> Fields.withDefault "pull_policy" PullPolicy.decoder .ifNotPresent

def decoder : Decoder ContainerSpec := fields.decode

def toJson (s : ContainerSpec) : Json :=
  .record [
    always "image" (.string s.image),
    whenSome "name" .string s.name,
    always "env" (.ofKeyMap .string s.env),
    always "ports" (.array (s.ports.map PortSpec.toJson)),
    whenSome "command" (fun c => .array (c.map .string)) s.command,
    whenSome "working_dir" .string s.workingDir,
    whenSome "user" .string s.user,
    always "restart_policy" s.restartPolicy.toJson,
    always "volumes" (.array (s.volumes.map VolumeSpec.toJson)),
    always "pull_policy" s.pullPolicy.toJson]

end ContainerSpec

end HostAgent
