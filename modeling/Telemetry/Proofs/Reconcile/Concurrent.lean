import Telemetry.Proofs.Reconcile.LiveNames
import Telemetry.Proofs.Reconcile.Serial
import Telemetry.Proofs.Reconcile.Trials

/-!
Calls at the same time. They are passes one after the other, and as long as all of them go by the
same targets and no addition fails, the first one adds and spawns what is missing and the others
nothing.
-/

namespace Telemetry

/-- A registry in which an addition that goes well makes its name live, and in which additions and
deletions touch no other name. -/
class LawfulRegistry (ρ : Type) {τ : Type} [TargetRegistry ρ τ] : Prop where
  names_add : ∀ (target : Target) (registry : ρ),
    (TargetRegistry.add target registry).1 = .ok () → ∀ name,
      (name ∈ TargetRegistry.names (TargetRegistry.add target registry).2 ↔
        name = target.name ∨ name ∈ TargetRegistry.names registry)
  names_delete : ∀ (deleted : String) (registry : ρ) (name : String), name ≠ deleted →
    (name ∈ TargetRegistry.names (TargetRegistry.delete deleted registry).2 ↔
      name ∈ TargetRegistry.names registry)

instance : LawfulRegistry Registry where
  names_add := by
    intro target registry added name
    change (registry.afterwards (registry.add target)).1 = .ok () at added
    change name ∈ (registry.afterwards (registry.add target)).2.names ↔ _
    rcases registry.afterwards_add_cases target with ⟨_, _, answer⟩ | ⟨_, reason, answer⟩
    · rw [answer]
      exact Registry.mem_names_registered
    · rw [answer] at added
      cases added
  names_delete := by
    intro deleted registry name other
    change name ∈ (registry.afterwards (registry.delete deleted)).2.names ↔ _
    rcases registry.afterwards_delete_cases deleted with ⟨_, answer⟩ | ⟨_, reason, answer⟩
    · rw [answer]
      exact Registry.mem_names_unregistered.trans (and_iff_left other)
    · rw [answer]
      exact Iff.rfl

/-- The exchange is no addition that failed. -/
def Exchange.wentWell : Exchange PassQuestion.Answer → Bool
  | ⟨.add _, .error _⟩ => false
  | _ => true

namespace Reconciler

variable {σ ρ τ : Type} [TargetSource σ] [TargetRegistry ρ τ]

theorem forall_additions_ok {declared : TargetSet} {state : Reconciler σ ρ τ}
    (goesBy : Pass.desired (TargetSource.read state.source).1 = some declared)
    (well : ∀ exchange ∈ Pass.program.transcript handler state, exchange.wentWell = true) :
    ∀ trial ∈ (effort declared state.registry).additions, trial.2 = .ok () := by
  rintro ⟨entry, reason | done⟩ member
  · have deed : ⟨.add entry.2, .error reason⟩ ∈
        Pass.deeds (Pass.program.transcript handler state) := by
      rw [deeds_program goesBy]
      exact List.mem_append_right _ (List.mem_flatMap.mpr ⟨_, member, List.mem_cons_self⟩)
    have failed := well _ (List.mem_filter.mp deed).1
    cases failed
  · rfl

section Lawful

variable [LawfulRegistry ρ]

omit [TargetSource σ] in
/-- Deletions leave the other names alone. -/
theorem mem_names_tryDeletions {names : List String} {name : String} (other : name ∉ names)
    (registry : ρ) :
    name ∈ TargetRegistry.names (tryDeletions names registry).2 ↔
      name ∈ TargetRegistry.names registry := by
  induction names generalizing registry with
  | nil => exact Iff.rfl
  | cons first rest ih =>
      exact (ih (List.not_mem_of_not_mem_cons other) _).trans
        (LawfulRegistry.names_delete first registry name (List.ne_of_not_mem_cons other))

omit [TargetSource σ] in
/-- Additions that all go well make their names live. -/
theorem mem_names_tryAdditions {targets : List (String × Target)} {registry : ρ}
    (keyed : ∀ entry ∈ targets, entry.2.name = entry.1)
    (well : ∀ trial ∈ (tryAdditions targets registry).1, trial.2 = .ok ()) (name : String) :
    name ∈ TargetRegistry.names (tryAdditions targets registry).2 ↔
      name ∈ targets.map (·.1) ∨ name ∈ TargetRegistry.names registry := by
  induction targets generalizing registry with
  | nil => simp [tryAdditions, tryEach]
  | cons first rest ih =>
      obtain ⟨ownWell, restWell⟩ := List.forall_mem_cons.mp well
      have own : first.2.name = first.1 := keyed first List.mem_cons_self
      have added := LawfulRegistry.names_add first.2 registry ownWell name
      have others := ih (fun entry member => keyed entry (List.mem_cons_of_mem _ member)) restWell
      refine (others.trans (or_congr_right added)).trans ?_
      rw [own, List.map_cons, List.mem_cons, or_assoc, or_left_comm]

/-- A pass without failed additions adds and spawns what is missing, and all that is declared is
live then. -/
theorem pass_alone {declared : TargetSet} (keyed : declared.IsKeyed) (state : Reconciler σ ρ τ)
    (goesBy : Pass.desired (TargetSource.read state.source).1 = some declared)
    (well : ∀ exchange ∈ Pass.program.transcript handler state, exchange.wentWell = true) :
    let missing := Pass.fresh declared (TargetRegistry.names state.registry)
    added (Pass.program.transcript handler state) = missing.map (·.2) ∧
      spawned (Pass.program.transcript handler state) = missing.map (·.1) ∧
      ∀ name ∈ declared.names,
        name ∈ TargetRegistry.names (Pass.program.run handler state).2.registry := by
  intro missing
  have allOk := forall_additions_ok goesBy well
  refine ⟨?_, ?_, fun name isDeclared => ?_⟩
  · rw [added_program goesBy]
  · rw [spawned_program goesBy, Effort.report, Tried.succeeded_of_forall_ok allOk,
      additions_effort]
  · rw [run_program goesBy, registry_withEffort]
    have names := mem_names_tryAdditions (Pass.keyed_fresh keyed _) allOk name
    refine names.mpr ?_
    by_cases isLive : name ∈ TargetRegistry.names state.registry
    · have notStale : name ∉ Pass.stale declared (TargetRegistry.names state.registry) :=
        fun stale => (mem_stale.mp stale).2 isDeclared
      exact .inr ((mem_names_tryDeletions notStale state.registry).mpr isLive)
    · obtain ⟨target, found⟩ := Option.isSome_iff_exists.mp (NameMap.mem_names.mp isDeclared)
      exact .inl (List.mem_map.mpr ⟨(name, target), mem_fresh.mpr ⟨found, isLive⟩, rfl⟩)

theorem fresh_eq_nil {declared : TargetSet} {live : List String}
    (allLive : ∀ name ∈ declared.names, name ∈ live) : Pass.fresh declared live = [] := by
  refine List.eq_nil_iff_forall_not_mem.mpr ?_
  intro entry member
  obtain ⟨found, missing⟩ := mem_fresh.mp member
  exact missing (allLive entry.1 (NameMap.mem_names_of_get? found))

/-- Of passes one after the other that go by the same targets, without failed additions, the first
one adds and spawns what is missing. -/
theorem serially_added {declared : TargetSet} (keyed : declared.IsKeyed)
    (state : Reconciler σ ρ τ) {passes : List (Nat × σ)} (nonempty : passes ≠ [])
    (goBy : ∀ pass ∈ passes, Pass.desired (TargetSource.read pass.2).1 = some declared)
    (well : ∀ exchange ∈ (serially state passes).asked.map (·.2), exchange.wentWell = true) :
    let missing := Pass.fresh declared (TargetRegistry.names state.registry)
    let exchanges := (serially state passes).asked.map (·.2)
    added exchanges = missing.map (·.2) ∧ spawned exchanges = missing.map (·.1) ∧
      ∀ name ∈ declared.names,
        name ∈ TargetRegistry.names (serially state passes).state.registry := by
  induction passes using List.reverseRecOn with
  | nil => exact absurd rfl nonempty
  | append_singleton earlier last ih =>
      obtain ⟨owner, source⟩ := last
      have exchanges : (serially state (earlier ++ [(owner, source)])).asked.map (·.2) =
          (serially state earlier).asked.map (·.2) ++
            Pass.program.transcript handler ((serially state earlier).state.withSource source) := by
        rw [serially_append]
        simp [Serial.pass, Function.comp_def]
      have goesBy := goBy (owner, source) (by simp)
      rw [exchanges] at well ⊢
      obtain ⟨passAdded, passSpawned, passNames⟩ :=
        pass_alone keyed ((serially state earlier).state.withSource source) goesBy
          fun exchange member => well exchange (List.mem_append_right _ member)
      rw [serially_append]
      by_cases isFirst : earlier = []
      · subst isFirst
        exact ⟨passAdded, passSpawned, passNames⟩
      · obtain ⟨earlierAdded, earlierSpawned, earlierNames⟩ := ih isFirst
          (fun pass member => goBy pass (List.mem_append_left _ member))
          (fun exchange member => well exchange (List.mem_append_left _ member))
        have nothingMissing := fresh_eq_nil earlierNames
        have sameRegistry : ((serially state earlier).state.withSource source).registry =
            (serially state earlier).state.registry := rfl
        rw [sameRegistry, nothingMissing] at passAdded passSpawned
        refine ⟨(added_append _ _).trans ?_, (spawned_append _ _).trans ?_, passNames⟩
        · rw [passAdded, earlierAdded]
          exact List.append_nil _
        · rw [passSpawned, earlierSpawned]
          exact List.append_nil _

end Lawful

/-- Calls at the same time, with what is declared changing as it may, are passes one after the other
in the order in which they take the lock: so they end when the last one has gone on to its end, and
what has been asked before is the beginning of what is asked until then. When all of them go by the
same targets and no addition fails, then what is missing is added and spawned once. -/
theorem calls_are_serial (state : Reconciler σ ρ τ) (notices : List (List Notice))
    (steps : List (CallStep σ)) :
    let minutes := (Minutes.start state notices).run steps
    let ended := minutes.completed
    ended.sources.length = ended.passes.taken.length ∧
      ended.Agrees (serially state (ended.passes.taken.zip ended.sources)) ∧
      ended.passes.taken = minutes.passes.taken ∧
      List.IsPrefix minutes.asked ended.asked ∧
      List.IsPrefix minutes.passes.finished ended.passes.finished ∧
      ∀ [LawfulRegistry ρ] (declared : TargetSet), declared.IsKeyed →
        (∀ source ∈ ended.sources, Pass.desired (TargetSource.read source).1 = some declared) →
        (∀ exchange ∈ ended.asked.map (·.2), exchange.wentWell = true) →
        ended.passes.taken ≠ [] →
          let missing := Pass.fresh declared (TargetRegistry.names state.registry)
          added (ended.asked.map (·.2)) = missing.map (·.2) ∧
            spawned (ended.asked.map (·.2)) = missing.map (·.1) ∧ (missing.map (·.1)).Nodup := by
  intro minutes ended
  obtain ⟨sameTaken, askedBefore, finishedBefore⟩ := minutes.completed_continues
  obtain ⟨sameLength, agrees⟩ := Minutes.completed_agrees (Minutes.run_inOrder state notices steps)
  refine ⟨sameLength, agrees, sameTaken, askedBefore, finishedBefore, ?_⟩
  intro lawful declared keyed goBy well taken missing
  have nonempty : ended.passes.taken.zip ended.sources ≠ [] := by
    intro nobody
    have noLength := congrArg List.length nobody
    rw [List.length_zip, sameLength, Nat.min_self] at noLength
    exact taken (List.eq_nil_of_length_eq_zero noLength)
  rw [agrees.asked] at well ⊢
  obtain ⟨allAdded, allSpawned, _⟩ := serially_added keyed state nonempty
    (fun pass member => goBy pass.2 (List.of_mem_zip member).2) well
  exact ⟨allAdded, allSpawned, nodup_fresh declared _⟩

theorem two_calls_spawn_once :
    let source := PlacedSource.declaring [Target.ofAddress "a" "a:1", Target.ofAddress "b" "b:1"]
    let minutes := Minutes.start (start source (Registry.empty ⟨false, none, false⟩))
      [[⟨.write, "c.toml"⟩], [⟨.create, "c.toml"⟩]]
    let ended := (minutes.run (List.replicate 12 [.call 0, .call 1]).flatten).completed
    ended.passes.finished.map (·.1) = [0, 1] ∧
      spawned (ended.asked.map (·.2)) = ["a", "b"] := by
  intro source minutes ended
  refine ⟨by decide +kernel, ?_⟩
  obtain ⟨_, _, _, _, _, once⟩ := calls_are_serial
    (start source (Registry.empty ⟨false, none, false⟩))
    [[⟨.write, "c.toml"⟩], [⟨.create, "c.toml"⟩]] (List.replicate 12 [.call 0, .call 1]).flatten
  obtain ⟨_, allSpawned, _⟩ := once source.source.current.resolvedSet
    (Declaration.isKeyed_resolvedSet _) (by decide +kernel) (by decide +kernel) (by decide +kernel)
  exact allSpawned.trans (by decide +kernel)

end Reconciler

end Telemetry
