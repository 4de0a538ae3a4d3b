import Mathlib.Data.List.Perm.Basic
import Telemetry.Proofs.NameMap

/-!
Names in ascending order. However they were in order before, the same names come out in the same
order, and names without repetition come out strictly ascending.
-/

namespace Telemetry

variable {names first second : List String}

theorem sortedNames_perm (names : List String) : (sortedNames names).Perm names :=
  List.mergeSort_perm _ _

theorem sortedNames_pairwise (names : List String) : (sortedNames names).Pairwise (· ≤ ·) := by
  refine (List.pairwise_mergeSort ?_ ?_ names).imp of_decide_eq_true
  · intro a b c below above
    exact decide_eq_true (String.le_trans (of_decide_eq_true below) (of_decide_eq_true above))
  · intro a b
    simpa using String.le_total a b

theorem sortedNames_ascending (distinct : names.Nodup) :
    (sortedNames names).Pairwise (· < ·) := by
  have different : (sortedNames names).Nodup := (sortedNames_perm names).nodup_iff.mpr distinct
  refine ((sortedNames_pairwise names).and different).imp ?_
  rintro a b ⟨below, differ⟩
  exact String.not_le.mp fun above => differ (String.le_antisymm below above)

theorem sortedNames_of_perm (same : first.Perm second) : sortedNames first = sortedNames second :=
  List.Perm.eq_of_pairwise (fun _ _ _ _ => String.le_antisymm) (sortedNames_pairwise first)
    (sortedNames_pairwise second)
    (((sortedNames_perm first).trans same).trans (sortedNames_perm second).symm)

theorem sortedNames_eq_iff : sortedNames first = sortedNames second ↔ first.Perm second := by
  refine ⟨fun same => ?_, sortedNames_of_perm⟩
  have sorted := sortedNames_perm first
  rw [same] at sorted
  exact sorted.symm.trans (sortedNames_perm second)

/-- Names in ascending order are told by which names they are. -/
theorem eq_of_ascending (firstAscending : first.Pairwise (· < ·))
    (secondAscending : second.Pairwise (· < ·)) (same : ∀ name, name ∈ first ↔ name ∈ second) :
    first = second := by
  have nodup : ∀ {names : List String}, names.Pairwise (· < ·) → names.Nodup := by
    intro names ascending
    refine ascending.imp ?_
    rintro a _ below rfl
    exact String.lt_irrefl a below
  refine List.Perm.eq_of_pairwise (fun a b _ _ below above => ?_) firstAscending secondAscending
    ((List.perm_ext_iff_of_nodup (nodup firstAscending) (nodup secondAscending)).mpr same)
  exact absurd (String.lt_trans below above) (String.lt_irrefl a)

/-- Entries of different names come into ascending order whatever order they were in. -/
theorem mergeSort_entries {α : Type} {entries sorted : List (String × α)}
    (same : entries.Perm sorted) (ascending : Ascending sorted) :
    entries.mergeSort (fun a b => decide (a.1 ≤ b.1)) = sorted := by
  have perm := (List.mergeSort_perm entries (fun a b => decide (a.1 ≤ b.1))).trans same
  refine List.Perm.eq_of_pairwise ?_ ((List.pairwise_mergeSort ?_ ?_ entries).imp of_decide_eq_true)
    (ascending.imp fun below => String.not_lt.mp (String.lt_asymm below)) perm
  · intro a b member other below above
    have found := findEntry_of_mem ascending (perm.mem_iff.mp member)
    rw [String.le_antisymm below above, findEntry_of_mem ascending other] at found
    exact Prod.ext (String.le_antisymm below above) (Option.some.inj found).symm
  · intro a b c below above
    exact decide_eq_true (String.le_trans (of_decide_eq_true below) (of_decide_eq_true above))
  · intro a b
    simpa using String.le_total a.1 b.1

end Telemetry
