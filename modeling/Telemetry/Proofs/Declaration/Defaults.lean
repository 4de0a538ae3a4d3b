import Telemetry.Proofs.Declaration.Layers
import Telemetry.Proofs.Layer.Steps

/-!
The tree of the defaults, which lies below every file. It is worked out once; what a file loads to
is then read from the file and the environment on top of it.
-/

namespace Telemetry

namespace Layer.Node

mutual

def decideEq : (first second : Node) → Decidable (first = second)
  | .leaf origin value, .leaf other second =>
      decidable_of_iff (origin = other ∧ value = second) (by simp)
  | .list origin items, .list other others =>
      have := decideItems items others
      decidable_of_iff (origin = other ∧ items = others) (by simp)
  | .table origin entries, .table other others =>
      have := decideEntries entries others
      decidable_of_iff (origin = other ∧ entries = others) (by simp)
  | .leaf _ _, .list _ _ => isFalse nofun
  | .leaf _ _, .table _ _ => isFalse nofun
  | .list _ _, .leaf _ _ => isFalse nofun
  | .list _ _, .table _ _ => isFalse nofun
  | .table _ _, .leaf _ _ => isFalse nofun
  | .table _ _, .list _ _ => isFalse nofun

def decideItems : (first second : List Node) → Decidable (first = second)
  | [], [] => isTrue rfl
  | [], _ :: _ => isFalse nofun
  | _ :: _, [] => isFalse nofun
  | item :: items, other :: others =>
      have := decideEq item other
      have := decideItems items others
      decidable_of_iff (item = other ∧ items = others) (by simp)

def decideEntries : (first second : List (String × Node)) → Decidable (first = second)
  | [], [] => isTrue rfl
  | [], _ :: _ => isFalse nofun
  | _ :: _, [] => isFalse nofun
  | (key, node) :: entries, (other, second) :: others =>
      have := decideEq node second
      have := decideEntries entries others
      decidable_of_iff (key = other ∧ node = second ∧ entries = others) (by simp [and_assoc])

end

instance : DecidableEq Node := decideEq

end Layer.Node

namespace Declaration

open Layer (Node environmentLayer overlay readDeclaration)

/-- The defaults as a tree: every setting at its place, and no target. -/
def settingsTree : Node := .table none [("global", .table none [
  ("api", .leaf none (.text "")),
  ("debug", .leaf none (.bool false)),
  ("format", .leaf none (.text "")),
  ("insecure", .leaf none (.bool false)),
  ("log", .leaf none (.bool false)),
  ("log_file", .leaf none (.text "")),
  ("max_msg_size", .leaf none (.integer 0)),
  ("no_prefix", .leaf none (.bool false)),
  ("password", .leaf none .nil),
  ("proxy_from_env", .leaf none (.bool false)),
  ("skip_verify", .leaf none (.bool false)),
  ("timeout_in_ms", .leaf none (.integer defaultTimeoutMs.toNat)),
  ("username", .leaf none .nil)])]

theorem overlay_base_default :
    (Layer.base Declaration.default).map (overlay Node.emptyTable) = .ok settingsTree := by
  decide +kernel

theorem exists_base_default : ∃ base, Layer.base Declaration.default = .ok base ∧
    settingsTree = overlay Node.emptyTable base :=
  Layer.KeyPath.map_eq_ok overlay_base_default

theorem tidy_settingsTree : settingsTree.Tidy := by
  obtain ⟨base, _, tree⟩ := exists_base_default
  rw [tree]
  exact Layer.overlay_tidy Node.tidy_emptyTable base

/-- What a file loads to is read from the file and the environment over the defaults. -/
theorem ofFile_eq (world : World) (path : String) : ofFile world path =
    (Layer.fileLayer world.files path).bind fun file =>
      readDeclaration
        (overlay (overlay settingsTree file) (environmentLayer world.environment)) := by
  obtain ⟨base, made, tree⟩ := exists_base_default
  rw [ofFile, overriddenBy, made, tree]
  rfl

end Declaration

end Telemetry
