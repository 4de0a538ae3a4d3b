import Telemetry.Proofs.Reconcile.LiveNames
import Telemetry.Proofs.Reconcile.Trials
import Telemetry.Proofs.SortedNames

/-!
A pass makes up the difference between what is live and what is declared: each name that is too many
is deleted, and each target that is missing is added, once and in ascending order, whether or not
the others can be.
-/

namespace Telemetry

variable {declared : TargetSet} {live : List String}

/-- Two parts of some names, each in ascending order. -/
structure Splits (whole first second : List String) : Prop where
  first_ascending : first.Pairwise (· < ·)
  second_ascending : second.Pairwise (· < ·)
  together : (first ++ second).Perm whole

namespace Pass

/-- The names to be deleted and the targets to be added, in ascending order. -/
structure IsDifference (declared : TargetSet) (live gone : List String)
    (new : List (String × Target)) : Prop where
  gone_ascending : gone.Pairwise (· < ·)
  mem_gone : ∀ name, name ∈ gone ↔ name ∈ live ∧ name ∉ declared.names
  new_ascending : (new.map (·.1)).Pairwise (· < ·)
  mem_new : ∀ name target,
    (name, target) ∈ new ↔ declared.get? name = some target ∧ name ∉ live

theorem isDifference (declared : TargetSet) (distinct : live.Nodup) :
    IsDifference declared live (stale declared live) (fresh declared live) where
  gone_ascending := sortedNames_ascending (distinct.filter _)
  mem_gone := fun _ => Reconciler.mem_stale
  new_ascending := (List.pairwise_map.mpr declared.ascending).sublist (List.filter_sublist.map _)
  mem_new := fun _ _ => Reconciler.mem_fresh

theorem stale_of_perm {order : List String} (same : order.Perm live) :
    stale declared order = stale declared live :=
  sortedNames_of_perm (same.filter _)

/-- Whatever the order of the declared targets, those that are missing are the same when they have
been sorted. -/
theorem fresh_of_perm {entries : List (String × Target)} {order : List String}
    (sameEntries : entries.Perm declared.entries) (sameNames : order.Perm live) :
    (entries.filter fun entry => !order.contains entry.1).mergeSort
      (fun a b => decide (a.1 ≤ b.1)) = fresh declared live := by
  refine mergeSort_entries ?_ (declared.ascending.filter _)
  have sameTest : (fun entry : String × Target => !order.contains entry.1) =
      fun entry => !live.contains entry.1 := by
    funext entry
    simp [sameNames.mem_iff]
  rw [sameTest]
  exact sameEntries.filter _

end Pass

/-- Things that were tried in ascending order are reported so, whether it went well or not. -/
theorem Tried.splits {α : Type} (tried : Tried α) (key : α → String)
    (ascending : ((tried.map (·.1)).map key).Pairwise (· < ·)) :
    Splits ((tried.map (·.1)).map key) (tried.succeeded.map key) (tried.failed.map key) where
  first_ascending := ascending.sublist (tried.succeeded_sublist.map key)
  second_ascending := ascending.sublist (tried.failed_sublist.map key)
  together := by
    rw [← List.map_append]
    exact tried.succeeded_append_failed_perm.map key

namespace Reconciler

variable {σ ρ τ : Type} [TargetSource σ] [TargetRegistry ρ τ] {state : Reconciler σ ρ τ}
  {notice : Notice}

theorem reconcile_of_triggers (triggers : notice.kind.triggersPass = true) :
    reconcile notice state = Pass.program.run handler state := by
  rw [reconcile, passFor, if_pos triggers]

/-- What a pass does for a notice that calls for one. The names to be deleted and the targets to be
added are told by what is live and what is declared, not by the order in which either is listed.
Each of them is tried once, in ascending order and whatever comes of the others, the deletions
first, and nothing else is done to the registry. The report has each name where the answer puts it,
what was added is spawned, and the counts grow by the lengths of the lists. -/
theorem pass_makes_difference (triggers : notice.kind.triggersPass = true)
    (goesBy : Pass.desired (TargetSource.read state.source).1 = some declared)
    (distinct : (TargetRegistry.names state.registry).Nodup) :
    let live := TargetRegistry.names state.registry
    let asked := Pass.program.transcript handler state
    ∃ (deletions : Tried String) (additions : Tried (String × Target)) (between : ρ)
      (report : Report) (later : Reconciler σ ρ τ),
      reconcile notice state = (some report, later) ∧
      Pass.IsDifference declared live (deletions.map (·.1)) (additions.map (·.1)) ∧
      (∀ (order : List String) (entries : List (String × Target)), order.Perm live →
        entries.Perm declared.entries →
        sortedNames (order.filter fun name => !declared.contains name) = deletions.map (·.1) ∧
        (entries.filter fun entry => !order.contains entry.1).mergeSort
          (fun a b => decide (a.1 ≤ b.1)) = additions.map (·.1)) ∧
      Pass.deeds asked =
        deletions.map Pass.deletionDeed ++ additions.flatMap Pass.additionDeeds ∧
      tryDeletions (deletions.map (·.1)) state.registry = (deletions, between) ∧
      tryAdditions (additions.map (·.1)) between = (additions, later.registry) ∧
      report = ⟨additions.succeeded.map (·.1), deletions.succeeded,
        additions.failed.map (·.1), deletions.failed⟩ ∧
      Splits (deletions.map (·.1)) report.deleted report.failedDeletes ∧
      Splits ((additions.map (·.1)).map (·.1)) report.added report.failedAdds ∧
      spawned asked = report.added ∧
      later.pending = state.pending ++ report.added.map (TargetRegistry.spawn ρ) ∧
      later.metrics = { state.metrics with
        adds := ⟨state.metrics.adds.ok + report.added.length,
          state.metrics.adds.failed + report.failedAdds.length⟩
        deletes := ⟨state.metrics.deletes.ok + report.deleted.length,
          state.metrics.deletes.failed + report.failedDeletes.length⟩
        pendingInits := state.metrics.pendingInits + report.added.length } := by
  intro live asked
  let tried := effort declared state.registry
  have gone : tried.deletions.map (·.1) = Pass.stale declared live := deletions_effort _ _
  have new : tried.additions.map (·.1) = Pass.fresh declared live := additions_effort _ _
  have difference := Pass.isDifference declared distinct
  have splitsDeletions := tried.deletions.splits id (by
    rw [gone, List.map_id]
    exact difference.gone_ascending)
  have splitsAdditions := tried.additions.splits (·.1) (by
    rw [new]
    exact difference.new_ascending)
  rw [gone, List.map_id, List.map_id, List.map_id] at splitsDeletions
  rw [new] at splitsAdditions
  obtain ⟨log, later⟩ := (afterReading state).withEffort_eq tried
  refine ⟨tried.deletions, tried.additions, (tryDeletions (Pass.stale declared live)
    state.registry).2, tried.report, (afterReading state).withEffort tried, ?_⟩
  rw [reconcile_of_triggers triggers, gone, new, later]
  refine ⟨later ▸ run_program goesBy, difference, ?_, deeds_program goesBy, rfl, rfl, rfl,
    splitsDeletions, splitsAdditions, spawned_program goesBy, rfl, rfl⟩
  intro order entries sameNames sameEntries
  exact ⟨Pass.stale_of_perm sameNames, Pass.fresh_of_perm sameEntries sameNames⟩

/-- A name that is gone, one that stays, one that is new, and a new one with no usable address. -/
theorem pass_over_four_names :
    let source := PlacedSource.declaring [Target.ofAddress "b" "b:1", Target.ofAddress "c" "c:1",
      Target.ofAddress "d" "d d"]
    let registry := ((Registry.empty ⟨false, none, false⟩).registered
      (Target.ofAddress "a" "a:1")).registered (Target.ofAddress "b" "b:1")
    let asked := Pass.program.transcript handler (start source registry)
    ∃ later, reconcile ⟨.write, "c.toml"⟩ (start source registry) =
        (some ⟨["c"], ["a"], ["d"], []⟩, later) ∧
      spawned asked = ["c"] ∧ later.metrics.adds = ⟨1, 1⟩ ∧ later.metrics.deletes = ⟨1, 0⟩ := by
  intro source registry asked
  have ended : (reconcile ⟨.write, "c.toml"⟩ (start source registry)).1 =
      some ⟨["c"], ["a"], ["d"], []⟩ := by decide +kernel
  obtain ⟨_, _, _, report, later, ran, _, _, _, _, _, _, _, _, isSpawned, _, counted⟩ :=
    @pass_makes_difference source.source.current.resolvedSet _ _ _ _ _ (start source registry)
      ⟨.write, "c.toml"⟩ rfl (by decide +kernel) (by decide +kernel)
  rw [ran] at ended
  cases ended
  exact ⟨later, ran, isSpawned, by rw [counted]; rfl, by rw [counted]; rfl⟩

end Reconciler

end Telemetry
