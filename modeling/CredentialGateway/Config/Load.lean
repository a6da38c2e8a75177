import CredentialGateway.Config.Decode
import CredentialGateway.Config.Validate
import CredentialGateway.FileTree.Files
import CredentialGateway.Toml.Document

/-!
# Configuration files

A configuration is loaded from a TOML file in a file tree, laid over the defaults, and checked.

    load … = .ok c → c.isValid        (isValid_of_load)
-/

namespace CredentialGateway

/-- The cause why a configuration cannot be had. -/
inductive ConfigError
  | file (e : FileError)
  | syntactic
  | decode (e : DecodeError)
  | invalid (problems : List Problem)
  deriving DecidableEq

namespace ConfigError

/-- The text of the error, where it has one of its own. -/
def message : ConfigError → Option Text
  | file e => some ("IO error: ".toList ++ e.message)
  | syntactic => none
  | decode e => e.message
  | invalid problems =>
    some ("Validation failed: ".toList ++ Text.join ", " (problems.map Problem.text))

end ConfigError

namespace GatewayConfig

/-! ## Algorithm -/

/-- A configuration without problems. -/
def check (c : GatewayConfig) : Except ConfigError GatewayConfig :=
  if c.problems = [] then .ok c else .error (.invalid c.problems)

/-- The configuration that a document describes. -/
def ofText (t : Text) : Except ConfigError GatewayConfig := do
  let some es := Toml.parse t | throw .syntactic
  (ofEntries es).mapError .decode

/-- The configuration in the file that a path names. -/
def load (tree : FileTree) (home : Location) (path : Text) : Except ConfigError GatewayConfig := do
  check (← ofText (← (tree.readText home path).mapError .file))

/-! ## Lemmas -/

theorem check_eq_ok_iff {c d : GatewayConfig} : check c = .ok d ↔ c = d ∧ c.problems = [] := by
  unfold check
  split
  · rename_i h
    simp [h]
  · rename_i h
    simp [h]

/-- What is loaded has no problem. -/
theorem isValid_of_load {tree : FileTree} {home : Location} {path : Text} {c : GatewayConfig}
    (h : load tree home path = .ok c) : c.isValid = true := by
  unfold load at h
  cases ht : (tree.readText home path).mapError ConfigError.file with
  | error e => rw [ht] at h; cases h
  | ok t =>
    rw [ht] at h
    change (ofText t >>= check) = .ok c at h
    cases hc : ofText t with
    | error e => rw [hc] at h; cases h
    | ok d =>
      rw [hc] at h
      obtain ⟨rfl, hp⟩ := check_eq_ok_iff.1 h
      simp [isValid, hp]

end GatewayConfig

end CredentialGateway
