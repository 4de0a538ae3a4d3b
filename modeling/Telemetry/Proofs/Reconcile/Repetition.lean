import Telemetry.Proofs.Reconcile.Concurrent
import Telemetry.Proofs.Reconcile.Difference

/-!
A pass that is made again. When answers depend on nothing but what is asked for, the second pass
finds to do what the first one has failed at, fails at it again, and changes nothing.
-/

namespace Telemetry

section Switching

variable {α ρ τ : Type} [TargetRegistry ρ τ] {step : α → ρ → Except Error Unit × ρ}
  {name : α → String} {possible : α → Bool} {live : Prop} {items : List α} {registry : ρ}

/-- A step that makes names live, or makes them cease to be. Whether it will go well is known in
advance. It changes the one name if it does, and nothing if it does not. -/
structure Switches (step : α → ρ → Except Error Unit × ρ) (name : α → String)
    (possible : α → Bool) (live : Prop) : Prop where
  succeeds : ∀ {item : α} {registry : ρ}, (name item ∈ TargetRegistry.names registry ↔ ¬ live) →
    possible item = true → ∃ after, step item registry = (.ok (), after) ∧
      (name item ∈ TargetRegistry.names after ↔ live) ∧
      ∀ other, other ≠ name item →
        (other ∈ TargetRegistry.names after ↔ other ∈ TargetRegistry.names registry)
  fails : ∀ {item : α} {registry : ρ}, (name item ∈ TargetRegistry.names registry ↔ ¬ live) →
    possible item = false → ∃ reason, step item registry = (.error reason, registry)

/-- What comes of such a step on one thing after the other. -/
structure Settles (name : α → String) (possible : α → Bool) (live : Prop) (items : List α)
    (registry : ρ) (tried : Tried α × ρ) : Prop where
  succeeded : tried.1.succeeded = items.filter possible
  failed : tried.1.failed = items.filter (!possible ·)
  switched : ∀ item ∈ items, possible item = true →
    (name item ∈ TargetRegistry.names tried.2 ↔ live)
  others : ∀ other, (∀ item ∈ items, name item = other → possible item = false) →
    (other ∈ TargetRegistry.names tried.2 ↔ other ∈ TargetRegistry.names registry)
  unchanged : (∀ item ∈ items, possible item = false) → tried.2 = registry

theorem Switches.settles (switches : Switches step name possible live)
    (distinct : (items.map name).Nodup)
    (ready : ∀ item ∈ items, (name item ∈ TargetRegistry.names registry ↔ ¬ live)) :
    Settles name possible live items registry (tryEach step items registry) := by
  induction items generalizing registry with
  | nil => exact ⟨rfl, rfl, nofun, fun _ _ => Iff.rfl, fun _ => rfl⟩
  | cons item items ih =>
      obtain ⟨notAgain, distinctRest⟩ := List.nodup_cons.mp distinct
      have differs : ∀ other ∈ items, name other ≠ name item :=
        fun other member same => notAgain (List.mem_map.mpr ⟨other, member, same⟩)
      have readyRest : ∀ other ∈ items, (name other ∈ TargetRegistry.names registry ↔ ¬ live) :=
        fun other member => ready other (List.mem_cons_of_mem _ member)
      have own := ready item List.mem_cons_self
      rw [tryEach]
      cases can : possible item with
      | true =>
          obtain ⟨after, answer, switched, kept⟩ := switches.succeeds own can
          have rest := ih distinctRest fun other member =>
            (kept (name other) (differs other member)).trans (readyRest other member)
          have stays : name item ∈ TargetRegistry.names (tryEach step items after).2 ↔ live :=
            (rest.others (name item) fun other member same =>
              absurd same (differs other member)).trans switched
          rw [answer]
          refine ⟨?_, ?_, ?_, ?_, ?_⟩
          · rw [List.filter_cons_of_pos can]
            exact congrArg (List.cons item) rest.succeeded
          · rw [List.filter_cons_of_neg (by simp [can])]
            exact rest.failed
          · exact List.forall_mem_cons.mpr ⟨fun _ => stays, rest.switched⟩
          · intro other untouched
            obtain ⟨notThis, untouchedRest⟩ := List.forall_mem_cons.mp untouched
            have differsOther : other ≠ name item := by
              rintro rfl
              rw [notThis rfl] at can
              cases can
            exact (rest.others other untouchedRest).trans (kept other differsOther)
          · intro none
            rw [none item List.mem_cons_self] at can
            cases can
      | false =>
          obtain ⟨reason, answer⟩ := switches.fails own can
          have rest := ih distinctRest readyRest
          rw [answer]
          refine ⟨?_, ?_, ?_, ?_, ?_⟩
          · rw [List.filter_cons_of_neg (by simp [can])]
            exact rest.succeeded
          · rw [List.filter_cons_of_pos (by simp [can])]
            exact congrArg (List.cons item) rest.failed
          · refine List.forall_mem_cons.mpr ⟨fun possible => ?_, rest.switched⟩
            rw [can] at possible
            cases possible
          · exact fun other untouched => rest.others other (List.forall_mem_cons.mp untouched).2
          · exact fun none => rest.unchanged (List.forall_mem_cons.mp none).2

end Switching

/-- The name that a question is to change in the registry. -/
def PassQuestion.changed? : PassQuestion → Option String
  | .delete name => some name
  | .add target => some target.name
  | _ => none

/-- A registry in which it is known of each name whether it can be deleted, and of each target
whether it can be added. -/
structure Predictable (ρ : Type) {τ : Type} [TargetRegistry ρ τ] (deletable : String → Bool)
    (addable : Target → Bool) : Prop where
  distinct : ∀ registry : ρ, (TargetRegistry.names registry).Nodup
  deletes : Switches (TargetRegistry.delete : String → ρ → _) id deletable False
  adds : Switches (TargetRegistry.add : Target → ρ → _) Target.name addable True

/-- All that is live can be deleted, and what can be dialled can be added. -/
theorem Registry.predictable : Predictable Registry (fun _ => true) Target.isDialable where
  distinct := fun registry => registry.entries.names_nodup
  deletes.succeeds := by
    intro name registry present _
    rcases registry.afterwards_delete_cases name with ⟨_, answer⟩ | ⟨absent, _⟩
    · refine ⟨_, answer, iff_false_intro fun still => ?_, fun other differs => ?_⟩
      · exact (Registry.mem_names_unregistered.mp still).2 rfl
      · exact Registry.mem_names_unregistered.trans (and_iff_left differs)
    · exact absurd (present.mpr not_false) absent
  deletes.fails := nofun
  adds.succeeds := by
    intro target registry absent dialable
    rcases registry.afterwards_add_cases target with ⟨_, _, answer⟩ | ⟨refused, _⟩
    · refine ⟨_, answer, iff_true_intro (Registry.mem_names_registered.mpr (.inl rfl)), ?_⟩
      exact fun other differs => Registry.mem_names_registered.trans (or_iff_right differs)
    · rw [dialable, ← Registry.mem_names] at refused
      exact absurd trivial (absent.mp (refused.resolve_left nofun))
  adds.fails := by
    intro target registry _ notDialable
    rcases registry.afterwards_add_cases target with ⟨dialable, _⟩ | ⟨_, reason, answer⟩
    · rw [notDialable] at dialable
      cases dialable
    · exact ⟨reason, answer⟩

theorem Report.isNoop_iff {report : Report} :
    report.isNoop = true ↔ (report.deleted = [] ∧ report.failedDeletes = []) ∧
      report.added = [] ∧ report.failedAdds = [] := by
  simp only [isNoop, Bool.and_eq_true, List.isEmpty_iff]
  tauto

theorem Tried.eq_nil_iff {α : Type} {tried : Tried α} :
    tried.succeeded = [] ∧ tried.failed = [] ↔ tried.map (·.1) = [] := by
  rw [← List.append_eq_nil_iff]
  exact ⟨fun nothing => List.nil_perm.mp (nothing ▸ tried.succeeded_append_failed_perm),
    fun nothing => List.perm_nil.mp (nothing ▸ tried.succeeded_append_failed_perm)⟩

namespace Reconciler

variable {σ ρ τ : Type} [TargetSource σ] [TargetRegistry ρ τ] {deletable : String → Bool}
  {addable : Target → Bool} {declared : TargetSet} {registry : ρ} {name : String} {target : Target}
  {state : Reconciler σ ρ τ}

theorem isNoop_effort_iff (declared : TargetSet) (registry : ρ) :
    (effort declared registry).report.isNoop = true ↔
      Pass.stale declared (TargetRegistry.names registry) = [] ∧
        Pass.fresh declared (TargetRegistry.names registry) = [] := by
  rw [Report.isNoop_iff, ← deletions_effort, ← additions_effort, ← Tried.eq_nil_iff,
    ← Tried.eq_nil_iff]
  simp only [Effort.report, List.map_eq_nil_iff]

/-- There is nothing to be done just when the declared names are the live ones. -/
theorem nothing_left_iff {live : List String} :
    Pass.stale declared live = [] ∧ Pass.fresh declared live = [] ↔
      ∀ name, name ∈ declared.names ↔ name ∈ live := by
  constructor
  · rintro ⟨noneStale, noneFresh⟩ name
    constructor
    · intro isDeclared
      obtain ⟨target, found⟩ := Option.isSome_iff_exists.mp (NameMap.mem_names.mp isDeclared)
      by_contra missing
      exact List.not_mem_nil (noneFresh ▸ mem_fresh.mpr ⟨found, missing⟩)
    · intro isLive
      by_contra undeclared
      exact List.not_mem_nil (noneStale ▸ mem_stale.mpr ⟨isLive, undeclared⟩)
  · intro same
    refine ⟨List.eq_nil_iff_forall_not_mem.mpr fun name member => ?_,
      fresh_eq_nil fun name => (same name).mp⟩
    obtain ⟨isLive, undeclared⟩ := mem_stale.mp member
    exact undeclared ((same name).mpr isLive)

theorem effort_of_nothing_left
    (noneStale : Pass.stale declared (TargetRegistry.names registry) = [])
    (noneFresh : Pass.fresh declared (TargetRegistry.names registry) = []) :
    effort declared registry = ⟨[], [], registry⟩ := by
  simp only [effort, noneStale, noneFresh]
  rfl

section Predictable

variable (predictable : Predictable ρ deletable addable)

include predictable

theorem settles_deletions (declared : TargetSet) (registry : ρ) :
    Settles id deletable False (Pass.stale declared (TargetRegistry.names registry)) registry
      (tryDeletions (Pass.stale declared (TargetRegistry.names registry)) registry) := by
  refine predictable.deletes.settles ?_ ?_
  · rw [List.map_id]
    exact nodup_stale (predictable.distinct registry)
  · exact fun name member => iff_of_true (mem_stale.mp member).1 not_false

/-- Before the additions, the live names that are declared are still live. -/
theorem mem_names_between (registry : ρ) (isDeclared : name ∈ declared.names) :
    name ∈ TargetRegistry.names
        (tryDeletions (Pass.stale declared (TargetRegistry.names registry)) registry).2 ↔
      name ∈ TargetRegistry.names registry := by
  refine (settles_deletions predictable declared registry).others name ?_
  rintro stale member rfl
  exact absurd isDeclared (mem_stale.mp member).2

theorem settles_additions (keyed : declared.IsKeyed) (registry : ρ) :
    Settles (fun entry : String × Target => entry.2.name) (fun entry => addable entry.2) True
      (Pass.fresh declared (TargetRegistry.names registry))
      (tryDeletions (Pass.stale declared (TargetRegistry.names registry)) registry).2
      (tryAdditions (Pass.fresh declared (TargetRegistry.names registry))
        (tryDeletions (Pass.stale declared (TargetRegistry.names registry)) registry).2) := by
  have names := Pass.keyed_fresh keyed (TargetRegistry.names registry)
  have adds : Switches (fun (entry : String × Target) (registry : ρ) =>
        TargetRegistry.add entry.2 registry)
      (fun entry => entry.2.name) (fun entry => addable entry.2) True :=
    ⟨predictable.adds.succeeds, predictable.adds.fails⟩
  refine adds.settles ?_ ?_
  · rw [List.map_congr_left names]
    exact nodup_fresh declared _
  · intro entry member
    obtain ⟨found, missing⟩ := mem_fresh.mp member
    rw [names entry member,
      mem_names_between predictable registry (NameMap.mem_names_of_get? found)]
    exact iff_of_false missing (not_not_intro trivial)

theorem mem_names_effort_declared (keyed : declared.IsKeyed)
    (found : declared.get? name = some target) :
    name ∈ TargetRegistry.names (effort declared registry).registry ↔
      name ∈ TargetRegistry.names registry ∨ addable target = true := by
  have additions := settles_additions predictable keyed registry
  have between := mem_names_between predictable registry
    (NameMap.mem_names_of_get? found)
  have own : target.name = name := keyed name target found
  by_cases added : name ∉ TargetRegistry.names registry ∧ addable target = true
  · have switched := additions.switched (name, target) (mem_fresh.mpr ⟨found, added.1⟩) added.2
    rw [own] at switched
    exact iff_of_true (switched.mpr trivial) (.inr added.2)
  · refine ((additions.others name ?_).trans between).trans ?_
    · rintro ⟨other, otherTarget⟩ member same
      obtain ⟨otherFound, missing⟩ := mem_fresh.mp member
      have isSame : other = name := (keyed other otherTarget otherFound).symm.trans same
      subst isSame
      rw [found] at otherFound
      cases otherFound
      simpa [missing] using added
    · tauto

theorem mem_names_effort_undeclared (keyed : declared.IsKeyed)
    (undeclared : name ∉ declared.names) :
    name ∈ TargetRegistry.names (effort declared registry).registry ↔
      name ∈ TargetRegistry.names registry ∧ deletable name = false := by
  have deletions := settles_deletions predictable declared registry
  have additions := settles_additions predictable keyed registry
  refine (additions.others name ?_).trans ?_
  · rintro ⟨other, otherTarget⟩ member same
    have otherFound := (mem_fresh.mp member).1
    have isSame : other = name := (keyed other otherTarget otherFound).symm.trans same
    exact absurd (NameMap.mem_names_of_get? otherFound) (isSame ▸ undeclared)
  · by_cases deleted : name ∈ TargetRegistry.names registry ∧ deletable name = true
    · have stale := mem_stale.mpr ⟨deleted.1, undeclared⟩
      refine iff_of_false (deletions.switched name stale deleted.2).mp ?_
      rw [deleted.2]
      simp
    · refine (deletions.others name ?_).trans ?_
      · rintro other member rfl
        have isLive := (mem_stale.mp member).1
        simpa [isLive] using deleted
      · cases can : deletable name <;> simp_all

/-- What a pass does is what can be done, and its report tells what cannot. -/
theorem report_effort (keyed : declared.IsKeyed) (registry : ρ) :
    let stale := Pass.stale declared (TargetRegistry.names registry)
    let fresh := Pass.fresh declared (TargetRegistry.names registry)
    (effort declared registry).report =
      ⟨(fresh.filter (addable ·.2)).map (·.1), stale.filter deletable,
        (fresh.filter (!addable ·.2)).map (·.1), stale.filter (!deletable ·)⟩ := by
  have deletions := settles_deletions predictable declared registry
  have additions := settles_additions predictable keyed registry
  simp only [← deletions.succeeded, ← deletions.failed, ← additions.succeeded, ← additions.failed]
  rfl

theorem registry_effort (keyed : declared.IsKeyed)
    (noneDeletable : ∀ name ∈ Pass.stale declared (TargetRegistry.names registry),
      deletable name = false)
    (noneAddable : ∀ entry ∈ Pass.fresh declared (TargetRegistry.names registry),
      addable entry.2 = false) :
    (effort declared registry).registry = registry :=
  ((settles_additions predictable keyed registry).unchanged noneAddable).trans
    ((settles_deletions predictable declared registry).unchanged noneDeletable)

/-- When a pass has been made, there are too many names just where a deletion failed. -/
theorem stale_again (keyed : declared.IsKeyed) {again : ρ}
    (same : ∀ name, name ∈ TargetRegistry.names again ↔
      name ∈ TargetRegistry.names (effort declared registry).registry) :
    Pass.stale declared (TargetRegistry.names again) =
      (Pass.stale declared (TargetRegistry.names registry)).filter (!deletable ·) := by
  have ascending : ∀ registry : ρ,
      (Pass.stale declared (TargetRegistry.names registry)).Pairwise (· < ·) :=
    fun registry => sortedNames_ascending ((predictable.distinct registry).filter _)
  refine eq_of_ascending (ascending again) ((ascending registry).filter _) fun name => ?_
  rw [List.mem_filter, mem_stale, mem_stale, same]
  by_cases undeclared : name ∈ declared.names
  · simp [undeclared]
  · rw [mem_names_effort_undeclared predictable keyed undeclared]
    simp [undeclared]

/-- When a pass has been made, targets are missing just where an addition failed. -/
theorem fresh_again (keyed : declared.IsKeyed) {again : ρ}
    (same : ∀ name, name ∈ TargetRegistry.names again ↔
      name ∈ TargetRegistry.names (effort declared registry).registry) :
    Pass.fresh declared (TargetRegistry.names again) =
      (Pass.fresh declared (TargetRegistry.names registry)).filter (!addable ·.2) := by
  rw [Pass.fresh, Pass.fresh, List.filter_filter]
  refine List.filter_congr fun entry member => ?_
  have isLive := (same entry.1).trans
    (mem_names_effort_declared predictable keyed (NameMap.mem_entries.mp member))
  rw [Bool.eq_iff_iff]
  simp [isLive, and_comm]

end Predictable

/-- The names that a pass has tried to change, in order. -/
def attempted (exchanges : List (Exchange PassQuestion.Answer)) : List String :=
  exchanges.filterMap (·.question.changed?)

theorem attempted_deeds (asked : List (Exchange PassQuestion.Answer)) :
    attempted (Pass.deeds asked) = attempted asked := by
  refine Pass.filterMap_deeds (fun question other => ?_) asked
  cases question <;> first | rfl | cases other

theorem attempted_effort (effort : Effort ρ) :
    attempted effort.deeds =
      effort.deletions.map (·.1) ++ (effort.additions.map (·.1)).map fun entry => entry.2.name := by
  have deletions : attempted (effort.deletions.map Pass.deletionDeed) =
      effort.deletions.map (·.1) := by
    rw [attempted, List.filterMap_map]
    exact congrFun List.filterMap_eq_map effort.deletions
  have additions : attempted (effort.additions.flatMap Pass.additionDeeds) =
      (effort.additions.map (·.1)).map fun entry => entry.2.name := by
    induction effort.additions with
    | nil => rfl
    | cons trial additions ih =>
        obtain ⟨entry, reason | done⟩ := trial
        · exact congrArg (List.cons _) ih
        · exact congrArg (List.cons _) ih
  rw [Effort.deeds, ← deletions, ← additions]
  exact List.filterMap_append

theorem attempted_program (keyed : declared.IsKeyed)
    (goesBy : Pass.desired (TargetSource.read state.source).1 = some declared) :
    attempted (Pass.program.transcript handler state) =
      Pass.stale declared (TargetRegistry.names state.registry) ++
        (Pass.fresh declared (TargetRegistry.names state.registry)).map (·.1) := by
  rw [← attempted_deeds, deeds_program goesBy, attempted_effort, deletions_effort,
    additions_effort, List.map_congr_left (Pass.keyed_fresh keyed _)]

/-- A pass reports that nothing was attempted just when the declared names are the live ones, and
then it does nothing to the registry. When it is known in advance which names can be deleted and
which targets added, a pass that goes by the same targets as the one before, with the live names as
that has left them, fails at what that has failed at, attempts nothing else, and leaves the registry
as it is. -/
theorem second_pass_fails_again {notice : Notice} (triggers : notice.kind.triggersPass = true)
    (goesBy : Pass.desired (TargetSource.read state.source).1 = some declared) :
    ∃ (report : Report) (later : Reconciler σ ρ τ),
      reconcile notice state = (some report, later) ∧
      (report.isNoop = true ↔
        ∀ name, name ∈ declared.names ↔ name ∈ TargetRegistry.names state.registry) ∧
      (report.isNoop = true → Pass.deeds (Pass.program.transcript handler state) = [] ∧
        later.registry = state.registry) ∧
      ∀ deletable addable, Predictable ρ deletable addable → declared.IsKeyed →
        ∀ (again : Reconciler σ ρ τ) (second : Notice), second.kind.triggersPass = true →
          Pass.desired (TargetSource.read again.source).1 = some declared →
          (∀ name, name ∈ TargetRegistry.names again.registry ↔
            name ∈ TargetRegistry.names later.registry) →
          ∃ final, reconcile second again =
              (some ⟨[], [], report.failedAdds, report.failedDeletes⟩, final) ∧
            attempted (Pass.program.transcript handler again) =
              report.failedDeletes ++ report.failedAdds ∧
            final.registry = again.registry := by
  refine ⟨_, _, (reconcile_of_triggers triggers).trans (run_program goesBy), ?_, ?_, ?_⟩
  · rw [isNoop_effort_iff, nothing_left_iff]
  · intro noop
    obtain ⟨noneStale, noneFresh⟩ := (isNoop_effort_iff declared state.registry).mp noop
    rw [deeds_program goesBy, registry_withEffort, effort_of_nothing_left noneStale noneFresh]
    exact ⟨rfl, rfl⟩
  · intro deletable addable predictable keyed again second triggersAgain goesByAgain same
    rw [registry_withEffort] at same
    have stale := stale_again predictable keyed same
    have fresh := fresh_again predictable keyed same
    have failed := report_effort predictable keyed state.registry
    have failedAgain : (effort declared again.registry).report =
        ⟨[], [], (effort declared state.registry).report.failedAdds,
          (effort declared state.registry).report.failedDeletes⟩ := by
      rw [report_effort predictable keyed again.registry, failed]
      simp [stale, fresh, List.filter_filter]
    refine ⟨(afterReading again).withEffort (effort declared again.registry), ?_, ?_, ?_⟩
    · rw [reconcile_of_triggers triggersAgain, run_program goesByAgain, failedAgain]
    · rw [attempted_program keyed goesByAgain, stale, fresh, failed]
    · rw [registry_withEffort]
      refine registry_effort predictable keyed ?_ ?_
      · rw [stale]
        intro name member
        simpa using (List.mem_filter.mp member).2
      · rw [fresh]
        intro entry member
        simpa using (List.mem_filter.mp member).2

/-- A target without a usable address is tried again, and nothing else is. -/
theorem unusable_address_fails_again :
    let source := PlacedSource.declaring [Target.ofAddress "b" "b:1", Target.ofAddress "d" "d d"]
    let registry := (Registry.empty ⟨false, none, false⟩).registered (Target.ofAddress "a" "a:1")
    let first := reconcile ⟨.write, "c.toml"⟩ (start source registry)
    let second := reconcile ⟨.write, "c.toml"⟩ first.2
    first.1 = some ⟨["b"], ["a"], ["d"], []⟩ ∧ second.1 = some ⟨[], [], ["d"], []⟩ ∧
      second.2.registry = first.2.registry := by
  intro source registry first second
  have ended : first.1 = some ⟨["b"], ["a"], ["d"], []⟩ := by decide +kernel
  obtain ⟨report, later, ran, _, _, repeats⟩ :=
    @second_pass_fails_again _ _ _ _ _ source.source.current.resolvedSet (start source registry)
      ⟨.write, "c.toml"⟩ rfl (by decide +kernel)
  have sameLater : later = first.2 := (congrArg Prod.snd ran).symm
  have sameReport : report = ⟨["b"], ["a"], ["d"], []⟩ :=
    Option.some.inj ((congrArg Prod.fst ran).symm.trans ended)
  obtain ⟨final, ranAgain, _, unchanged⟩ := repeats _ _ Registry.predictable
    (Declaration.isKeyed_resolvedSet _) first.2 ⟨.write, "c.toml"⟩ rfl (by decide +kernel)
    (fun _ => sameLater ▸ Iff.rfl)
  subst sameReport
  refine ⟨ended, congrArg Prod.fst ranAgain, ?_⟩
  exact (congrArg (fun outcome => outcome.2.registry) ranAgain).trans unchanged

end Reconciler

end Telemetry
