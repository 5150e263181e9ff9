import Mathlib.Data.List.Basic
import HostAgent.Engine.Inspection
import HostAgent.Proofs.Text.Bytes

/-!
# Environments come back

The environment of a spec is given to the engine as a list of assignments, and is
read from such a list when a container is inspected. An assignment is cut at its
first equals sign. So a value may have equals signs, and a key may be empty, but a
key with an equals sign is never read: what was in it is in the value then.

## Main results

* `assignment?_eq_some_iff`: how an assignment is read.
* `environment_assignments`: an environment whose keys have no equals signs is read back.
* `ContainerSpec.env_comes_back_iff`: the environment of a spec in the request, and read back.
-/

namespace HostAgent

/-! ## A single assignment -/

/-- Key and value of an assignment, if it is one. -/
def assignment? (entry : String) : Option (String × String) :=
  match Text.cutAt '=' entry.toList with
  | (key, some value) => some (String.ofList key, String.ofList value)
  | (_, none) => none

theorem environment_eq (entries : List String) :
    environment entries = KeyMap.ofList (entries.filterMap assignment?) := rfl

/-- An assignment is cut at its first equals sign. -/
theorem assignment?_eq_some_iff {entry key value : String} :
    assignment? entry = some (key, value) ↔ entry = key ++ "=" ++ value ∧ '=' ∉ key.toList := by
  have hwritten : (key ++ "=" ++ value).toList = key.toList ++ '=' :: value.toList :=
    Text.toList_joined key value '='
  rw [← String.toList_inj, hwritten, ← Text.cutAt_eq_some_iff, assignment?]
  rcases Text.cutAt '=' entry.toList with ⟨front, _ | rest⟩
  · simp
  · simp only [Option.some.injEq, Prod.mk.injEq, ← String.toList_inj, String.toList_ofList]

/-! ## Whole environments -/

/-- No key that was read has an equals sign. -/
theorem environment_keys {entries : List String} {key : String}
    (h : key ∈ (environment entries).keys) : '=' ∉ key.toList := by
  obtain ⟨value, hvalue⟩ := (KeyMap.mem_keys_iff _ _).1 h
  rw [environment_eq] at hvalue
  obtain ⟨entry, -, hread⟩ := List.mem_filterMap.1 (KeyMap.mem_of_get?_ofList hvalue)
  exact (assignment?_eq_some_iff.1 hread).2

/-- Every assignment is read as the entry that it was written for, so all entries are read in their
order. -/
theorem environment_assignments {env : KeyMap String} (h : ∀ key ∈ env.keys, '=' ∉ key.toList) :
    environment (assignments env) = env := by
  have hread : ∀ e ∈ env.entries, assignment? (e.1 ++ "=" ++ e.2) = some e := fun e he =>
    assignment?_eq_some_iff.2 ⟨rfl, h e.1 (List.mem_map_of_mem he)⟩
  have hall : (assignments env).filterMap assignment? = env.entries := by
    rw [assignments, List.filterMap_map]
    exact (List.filterMap_congr hread).trans List.filterMap_some
  rw [environment_eq, hall, KeyMap.ofList_entries]

/-- The request for a spec has one assignment for each entry of its environment, strictly
increasing in the bytes of their keys. What is read back from it is the environment of the spec if
and only if none of its keys has an equals sign. -/
theorem ContainerSpec.env_comes_back_iff (spec : ContainerSpec) :
    let env := spec.createRequest.env
    (∃ es : List (String × String), env = es.map (fun e => e.1 ++ "=" ++ e.2) ∧
      es.Pairwise (fun e f => Text.bytes e.1 < Text.bytes f.1) ∧
      ∀ key value, (key, value) ∈ es ↔ spec.env.get? key = some value) ∧
    (environment env = spec.env ↔ ∀ key ∈ spec.env.keys, '=' ∉ key.toList) := by
  intro env
  refine ⟨⟨spec.env.entries, rfl, ?_, ?_⟩, ?_, environment_assignments⟩
  · exact spec.env.sorted.imp Text.bytes_lt
  · intro key value
    exact (spec.env.get?_eq_some_iff key value).symm
  · intro hback key hkey
    rw [← hback] at hkey
    exact environment_keys hkey

example : environment (assignments (KeyMap.ofList [("A", ""), ("", "x=y"), ("B=C", "d")])) =
    KeyMap.ofList [("A", ""), ("", "x=y"), ("B", "C=d")] := by decide +kernel

end HostAgent
