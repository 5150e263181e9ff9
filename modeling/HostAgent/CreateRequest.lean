import HostAgent.Spec
import HostAgent.Text.Blank

/-!
# Requests to create a container

A spec with its defaults filled in: every port has a host address and a
protocol in lower case, the environment is a list of assignments in key order,
and the restart policy says how often it retries. Empty texts count as left out.
-/

namespace HostAgent

/-- A restart policy with the number of its retries, if that is bounded. -/
structure RestartRule where
  policy : RestartPolicy
  maxRetries : Option Nat
deriving DecidableEq, Repr

/-- How often a failing container is restarted under the policy `onFailure`. -/
def RestartPolicy.failureRetries : Nat := 3

def RestartPolicy.rule (p : RestartPolicy) : RestartRule :=
  ⟨p, if p = .onFailure then some failureRetries else none⟩

structure PortBindingRequest where
  containerPort : UInt16
  hostPort : Option UInt16
  hostIp : String
  protocol : String
deriving DecidableEq, Repr

structure MountRequest where
  source : String
  target : String
  readOnly : Bool
deriving DecidableEq, Repr

structure CreateRequest where
  name : Option String
  image : String
  env : List String
  command : Option (List String)
  workingDir : Option String
  user : Option String
  ports : List PortBindingRequest
  mounts : List MountRequest
  restart : RestartRule
deriving DecidableEq, Repr

def PortSpec.defaultProtocol : String := "tcp"

/-- All interfaces of the host. -/
def PortSpec.defaultHostIp : String := "0.0.0.0"

def PortSpec.binding (p : PortSpec) : PortBindingRequest :=
  { containerPort := p.containerPort
    hostPort := p.hostPort
    hostIp := (Text.nonEmpty? p.hostIp).getD defaultHostIp
    protocol := Text.asciiLower ((Text.nonEmpty? p.protocol).getD defaultProtocol) }

def VolumeSpec.mount (v : VolumeSpec) : MountRequest :=
  { source := v.source, target := v.target, readOnly := v.readOnly }

/-- Assignments in the form `key=value`, in key order. -/
def assignments (env : KeyMap String) : List String :=
  env.entries.map fun e => e.1 ++ "=" ++ e.2

/-- The request for what a spec asks for. -/
def ContainerSpec.createRequest (s : ContainerSpec) : CreateRequest :=
  { name := Text.nonEmpty? s.name
    image := s.image
    env := assignments s.env
    command := s.command.filter (!·.isEmpty)
    workingDir := s.workingDir
    user := s.user
    ports := s.ports.map PortSpec.binding
    mounts := s.volumes.map VolumeSpec.mount
    restart := s.restartPolicy.rule }

/-! ## As JSON

Every member is written; what is left out is `null`. -/

private def orNull {α : Type} (encode : α → Json) (a : Option α) : Json :=
  (a.map encode).getD .null

private def textsJson (l : List String) : Json := .array (l.map .string)

def RestartRule.toJson (r : RestartRule) : Json :=
  .ofMembers [("policy", r.policy.toJson), ("max_retries", orNull .nat r.maxRetries)]

def PortBindingRequest.toJson (p : PortBindingRequest) : Json :=
  .ofMembers [
    ("container_port", .nat p.containerPort.toNat),
    ("host_port", orNull (fun n => .nat n.toNat) p.hostPort),
    ("host_ip", .string p.hostIp),
    ("protocol", .string p.protocol)]

def MountRequest.toJson (m : MountRequest) : Json :=
  .ofMembers [
    ("source", .string m.source), ("target", .string m.target), ("read_only", .bool m.readOnly)]

def CreateRequest.toJson (r : CreateRequest) : Json :=
  .ofMembers [
    ("name", .ofText? r.name),
    ("image", .string r.image),
    ("env", textsJson r.env),
    ("cmd", orNull textsJson r.command),
    ("working_dir", .ofText? r.workingDir),
    ("user", .ofText? r.user),
    ("ports", .array (r.ports.map PortBindingRequest.toJson)),
    ("mounts", .array (r.mounts.map MountRequest.toJson)),
    ("restart", r.restart.toJson)]

end HostAgent
