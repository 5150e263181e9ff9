import HostAgent.Health.Registry
import HostAgent.Series

/-!
# The health endpoint

What the agent answers on its own port: its health, whether it is ready, and its
series. The status of an answer says all that a probe needs to know. A route
answers `GET`, and `HEAD` like it but without a body.
-/

namespace HostAgent.HealthEndpoint

/-- An answer; one without content has no content type. -/
structure Answer where
  status : Nat
  contentType : Option String
  body : String
deriving DecidableEq, Repr

def json (status : Nat) (body : Json) : Answer := ⟨status, some "application/json", body.render⟩

/-- The health; unhealthy is an error of the service. -/
def health (r : HealthRegistry) : Answer :=
  json (if r.report.status = .unhealthy then 503 else 200) r.report.toJson

def readiness (r : HealthRegistry) : Answer :=
  json (if r.readiness.ready then 200 else 503) r.readiness.toJson

def series (s : Series) : Answer := ⟨200, some "text/plain; version=0.0.4", s.text⟩

/-- What a path shows, in the state of the agent. -/
def route? (path : String) : Option (HealthRegistry → Series → Answer) :=
  match path with
  | "/healthz" => some fun r _ => health r
  | "/readyz" => some fun r _ => readiness r
  | "/metrics" => some fun _ s => series s
  | _ => none

/-- The answer to a request; a query does not matter. -/
def answer (method target : String) (r : HealthRegistry) (s : Series) : Answer :=
  let path := String.ofList (target.toList.takeWhile (· != '?'))
  match route? path with
  | none => ⟨404, none, ""⟩
  | some page =>
    if method = "GET" then page r s
    else if method = "HEAD" then { page r s with body := "" }
    else ⟨405, none, ""⟩

end HostAgent.HealthEndpoint
