import HostAgent.Agent
import HostAgent.Settings.Basic

/-!
# Why a run of the agent fails

A run fails because of its settings, because one of its two clients cannot be
made, or because the agent does not start. The report of a failure names it and
below it what caused it.

## Main results

* `Failure.chain_ne_nil`: a failure has a name.
* `Failure.report_of_single`: without causes the report is one line.
-/

namespace HostAgent

inductive Failure
  | settings (cause : SettingsError)
  | engineClient (cause : EngineError)
  | centralClient (cause : CentralError)
  | startup (cause : StartupError)
deriving DecidableEq, Repr

namespace Failure

/-- What failed, and below it what caused it. -/
def chain : Failure → List String
  | settings e => e.message :: e.cause?.toList
  | engineClient e => ["Failed to create runtime client", e.message]
  | centralClient e => "Failed to create central API client" :: e.chain
  | startup e => e.chain

theorem chain_ne_nil (f : Failure) : f.chain ≠ [] := by
  cases f with
  | startup e => cases e <;> simp [chain, StartupError.chain]
  | _ => simp [chain]

/-- The lines of a text below a heading; the first has a mark in front, the others are indented
by its width. -/
def indented (mark text : String) : List String :=
  match text.splitOn "\n" with
  | [] => []
  | first :: more =>
    (mark ++ first) :: more.map (String.ofList (List.replicate mark.length ' ') ++ ·)

/-- The causes, numbered if there are several. -/
def causeLines : List String → List String
  | [cause] => indented "    " cause
  | causes => (causes.zipIdx.map fun c => indented (numberMark c.2) c.1).flatten
where
  /-- A number and a colon, in seven columns. -/
  numberMark (n : Nat) : String :=
    let digits := toString n
    String.ofList (List.replicate (5 - digits.length) ' ') ++ digits ++ ": "

/-- The lines of the report on a chain of causes. -/
def report : List String → List String
  | [] => []
  | [top] => ("Error: " ++ top).splitOn "\n"
  | top :: causes => ("Error: " ++ top).splitOn "\n" ++ ["", "Caused by:"] ++ causeLines causes

theorem report_of_single (top : String) : report [top] = ("Error: " ++ top).splitOn "\n" := rfl

end Failure

end HostAgent
