import Telemetry.Proofs.Interference
import Telemetry.Proofs.Reconcile.Shape
import Telemetry.Proofs.Registry.Entries
import Telemetry.Reconcile.Reconciler

/-!
What a pass makes of the live names while initialisations go on: of the names that are not declared
none stays, and of those that are declared every one is live that was live before or that can be
dialled. No deletion fails.
-/

namespace Telemetry.Reconciler

open Program (Ensures)

variable {σ : Type} {before middle later state : Reconciler σ Registry InitTask}
  {live after : String → Prop} {name : String} {target : Target}

/-- A later state with given live names, with the source as it was and no more failed deletions. -/
structure Reaches (before : Reconciler σ Registry InitTask) (live : String → Prop)
    (later : Reconciler σ Registry InitTask) : Prop where
  names : ∀ name, name ∈ later.registry.names ↔ live name
  source : later.source = before.source
  failedDeletes : later.metrics.deletes.failed = before.metrics.deletes.failed

/-- The live names are as they were. -/
def Steady (before later : Reconciler σ Registry InitTask) : Prop :=
  before.Reaches (· ∈ before.registry.names) later

namespace Reaches

theorem trans (first : before.Reaches live middle) (second : middle.Reaches after later) :
    before.Reaches after later :=
  ⟨second.names, second.source.trans first.source,
    second.failedDeletes.trans first.failedDeletes⟩

theorem congr (reaches : before.Reaches live later) (same : ∀ name, live name ↔ after name) :
    before.Reaches after later :=
  { reaches with names := fun name => (reaches.names name).trans (same name) }

theorem steady (reaches : before.Reaches live middle) (steady : Steady middle later) :
    before.Reaches live later :=
  (reaches.trans steady).congr reaches.names

theorem deleted (state : Reconciler σ Registry InitTask) (name : String) :
    state.Reaches (fun other => other ∈ state.registry.names ∧ other ≠ name)
      { state with registry := state.registry.unregistered name } where
  names := fun _ => Registry.mem_names_unregistered
  source := rfl
  failedDeletes := rfl

theorem added (state : Reconciler σ Registry InitTask) (target : Target) :
    state.Reaches (fun other => other = target.name ∨ other ∈ state.registry.names)
      { state with registry := state.registry.registered target } where
  names := fun _ => Registry.mem_names_registered
  source := rfl
  failedDeletes := rfl

end Reaches

namespace Steady

theorem refl (state : Reconciler σ Registry InitTask) : Steady state state :=
  ⟨fun _ => Iff.rfl, rfl, rfl⟩

theorem trans (first : Steady before middle) (second : Steady middle later) :
    Steady before later :=
  Reaches.steady first second

end Steady

variable [TargetSource σ]

theorem handler_delete_live (present : name ∈ state.registry.names) :
    handler (.delete name) state =
      (.ok (), { state with registry := state.registry.unregistered name }) := by
  rcases state.registry.afterwards_delete_cases name with ⟨_, answer⟩ | ⟨absent, _⟩
  · simp only [handler, TargetRegistry.delete, answer]
  · exact absurd present absent

theorem handler_add_dialable (dialable : target.isDialable = true)
    (absent : target.name ∉ state.registry.names) :
    handler (.add target) state =
      (.ok (), { state with registry := state.registry.registered target }) := by
  rcases state.registry.afterwards_add_cases target with ⟨_, _, answer⟩ | ⟨refused, _⟩
  · simp only [handler, TargetRegistry.add, answer]
  · rw [dialable, ← Registry.mem_names] at refused
    exact absurd refused (by simp [absent])

theorem handler_add_refused (state : Reconciler σ Registry InitTask)
    (refused : target.isDialable = false) :
    ∃ reason, handler (.add target) state = (.error reason, state) := by
  rcases state.registry.afterwards_add_cases target with ⟨dialable, _⟩ | ⟨_, reason, answer⟩
  · rw [refused] at dialable
    cases dialable
  · exact ⟨reason, by simp only [handler, TargetRegistry.add, answer]⟩

theorem steady_count (operation : Operation) (success : Bool)
    (notFailedDelete : operation = .delete → success = true) :
    Steady state (handler (.count operation success) state).2 := by
  refine ⟨fun _ => Iff.rfl, rfl, ?_⟩
  cases operation with
  | add => rfl
  | delete => rw [notFailedDelete rfl]; rfl
  | init => rfl

theorem steady_note (entry : LogEntry) : Steady state (handler (.note entry) state).2 :=
  ⟨fun _ => Iff.rfl, rfl, rfl⟩

theorem steady_spawn (name : String) : Steady state (handler (.spawn name) state).2 :=
  ⟨fun _ => Iff.rfl, rfl, rfl⟩

/-- Live names can all be deleted, and are gone then. -/
theorem deleteAll_ensures {names : List String} (distinct : names.Nodup) (report : Report)
    (state : Reconciler σ Registry InitTask)
    (present : ∀ name ∈ names, name ∈ state.registry.names) :
    Ensures handler Steady
      (fun result later => result.failedDeletes = report.failedDeletes ∧
        state.Reaches (fun name => name ∈ state.registry.names ∧ name ∉ names) later)
      (Pass.deleteAll names report) state := by
  induction names generalizing report state with
  | nil => exact fun later between => ⟨rfl, between.congr (by simp)⟩
  | cons name names ih =>
      obtain ⟨notAgain, distinctRest⟩ := List.nodup_cons.mp distinct
      intro asked between
      have live : name ∈ asked.registry.names :=
        (between.names name).mpr (present name List.mem_cons_self)
      rw [handler_delete_live live]
      intro counted sinceDeleted
      have reached : state.Reaches (fun other => other ∈ state.registry.names ∧ other ≠ name)
          (handler (.count .delete true) counted).2 := by
        have deleted := Reaches.trans between (.deleted asked name)
        refine ((deleted.steady sinceDeleted).steady (steady_count _ _ fun _ => rfl)).congr ?_
        exact fun other => and_congr_left' (between.names other)
      have others : ∀ other ∈ names,
          other ∈ (handler (.count .delete true) counted).2.registry.names := by
        intro other member
        refine (reached.names other).mpr ⟨present other (List.mem_cons_of_mem _ member), ?_⟩
        rintro rfl
        exact notAgain member
      refine (ih distinctRest (report.deletion name true) _ others).mono ?_
      rintro result later ⟨noFailure, rest⟩
      refine ⟨noFailure, (reached.trans rest).congr ?_⟩
      intro other
      rw [reached.names other, List.mem_cons, not_or, and_assoc]

/-- Of the targets that are not live, those are live in the end that can be dialled. -/
theorem addAll_ensures {targets : List (String × Target)} (report : Report)
    (keyed : ∀ entry ∈ targets, entry.2.name = entry.1) (distinct : (targets.map (·.1)).Nodup)
    (absent : ∀ entry ∈ targets, entry.1 ∉ state.registry.names) :
    Ensures handler Steady
      (fun result later => result.failedDeletes = report.failedDeletes ∧
        state.Reaches (fun name => name ∈ state.registry.names ∨
          ∃ entry ∈ targets, entry.1 = name ∧ entry.2.isDialable = true) later)
      (Pass.addAll targets report) state := by
  induction targets generalizing report state with
  | nil => exact fun later between => ⟨rfl, between.congr (by simp)⟩
  | cons first rest ih =>
      obtain ⟨notAgain, distinctRest⟩ := List.nodup_cons.mp distinct
      have keyedRest : ∀ entry ∈ rest, entry.2.name = entry.1 :=
        fun entry member => keyed entry (List.mem_cons_of_mem _ member)
      have own : first.2.name = first.1 := keyed first List.mem_cons_self
      intro asked between
      cases dialable : first.2.isDialable with
      | true =>
          have notLive : first.2.name ∉ asked.registry.names := by
            rw [own, between.names]
            exact absent first List.mem_cons_self
          rw [handler_add_dialable dialable notLive]
          intro counted sinceAdded spawning sinceCounted
          have reached : state.Reaches (fun name => name = first.1 ∨ name ∈ state.registry.names)
              (handler (.spawn first.1) spawning).2 := by
            have added := Reaches.trans between (.added asked first.2)
            have counting := (added.steady sinceAdded).steady (steady_count .add true nofun)
            refine ((counting.steady sinceCounted).steady (steady_spawn first.1)).congr ?_
            intro name
            rw [own, between.names]
          have others : ∀ entry ∈ rest,
              entry.1 ∉ (handler (.spawn first.1) spawning).2.registry.names := by
            intro entry member live
            rcases (reached.names entry.1).mp live with same | before
            · exact notAgain (List.mem_map.mpr ⟨entry, member, same⟩)
            · exact absent entry (List.mem_cons_of_mem _ member) before
          refine (ih (report.addition first.1 true) keyedRest distinctRest others).mono ?_
          rintro result later ⟨noFailure, restAdded⟩
          refine ⟨noFailure, (reached.trans restAdded).congr ?_⟩
          intro name
          rw [reached.names name, or_assoc, or_left_comm]
          simp only [List.mem_cons, or_and_right, exists_or, exists_eq_left, dialable, and_true,
            eq_comm (a := name)]
      | false =>
          obtain ⟨reason, answer⟩ := handler_add_refused asked dialable
          rw [answer]
          intro counted sinceRefused noting sinceCounted
          have reached : Steady state
              (handler (.note (Pass.failedAddEntry first.1 reason)) noting).2 := by
            have counting := (between.trans sinceRefused).trans (steady_count .add false nofun)
            exact (counting.trans sinceCounted).trans (steady_note _)
          have others : ∀ entry ∈ rest, entry.1 ∉
              (handler (.note (Pass.failedAddEntry first.1 reason)) noting).2.registry.names := by
            intro entry member live
            exact absent entry (List.mem_cons_of_mem _ member) ((reached.names entry.1).mp live)
          refine (ih (report.addition first.1 false) keyedRest distinctRest others).mono ?_
          rintro result later ⟨noFailure, restAdded⟩
          refine ⟨noFailure, (Reaches.trans reached restAdded).congr ?_⟩
          intro name
          rw [reached.names name]
          simp [dialable]

theorem mem_stale {declared : TargetSet} {names : List String} :
    name ∈ Pass.stale declared names ↔ name ∈ names ∧ name ∉ declared.names := by
  rw [Pass.stale, sortedNames, List.mem_mergeSort, List.mem_filter, NameMap.mem_names]
  simp [NameMap.contains]

theorem nodup_stale {declared : TargetSet} {names : List String} (distinct : names.Nodup) :
    (Pass.stale declared names).Nodup :=
  (List.mergeSort_perm _ _).nodup_iff.mpr (distinct.filter _)

theorem mem_fresh {declared : TargetSet} {names : List String} :
    (name, target) ∈ Pass.fresh declared names ↔
      declared.get? name = some target ∧ name ∉ names := by
  rw [Pass.fresh, List.mem_filter, NameMap.mem_entries]
  simp

theorem nodup_fresh (declared : TargetSet) (names : List String) :
    ((Pass.fresh declared names).map (·.1)).Nodup :=
  declared.names_nodup.sublist (List.filter_sublist.map _)

theorem finish_ensures (report : Report) :
    Ensures handler Steady (fun result later => result = some report ∧ Steady state later)
      (Pass.finish report) state := by
  unfold Pass.finish
  split
  · exact fun later between => ⟨rfl, between⟩
  · exact fun asked between later sinceNoted =>
      ⟨rfl, (between.trans (steady_note _)).trans sinceNoted⟩

/-- A pass that goes by targets ends with a report of no failed deletion, and with those of them
live that were live before or that can be dialled. -/
theorem forDeclared_ensures (state : Reconciler σ Registry InitTask) {declared : TargetSet}
    (keyed : declared.IsKeyed) :
    Ensures handler Steady
      (fun result later => (∃ report, result = some report ∧ report.failedDeletes = []) ∧
        state.Reaches (fun name => ∃ target, declared.get? name = some target ∧
          (name ∈ state.registry.names ∨ target.isDialable = true)) later)
      (Pass.forDeclared declared) state := by
  intro asked between
  have distinct : (Pass.stale declared asked.registry.names).Nodup :=
    nodup_stale asked.registry.entries.names_nodup
  have deletions := deleteAll_ensures distinct .empty asked
    fun name member => (mem_stale.mp member).1
  refine Ensures.bind .refl (Ensures.bind .refl (deletions.mono ?_))
  rintro afterDeletions deleted ⟨noneFailed, deletions⟩
  refine (addAll_ensures afterDeletions (Pass.keyed_fresh keyed _) (nodup_fresh _ _) ?_).mono ?_
  · intro entry member live
    exact (mem_fresh.mp member).2 ((deletions.names entry.1).mp live).1
  · rintro report added ⟨noMoreFailed, additions⟩
    refine (finish_ensures report).mono ?_
    rintro result later ⟨rfl, finished⟩
    refine ⟨⟨report, rfl, noMoreFailed.trans noneFailed⟩, ?_⟩
    refine ((Reaches.trans between (deletions.trans additions)).steady finished).congr ?_
    intro name
    rw [deletions.names name, between.names name]
    constructor
    · rintro (⟨live, notStale⟩ | ⟨entry, member, rfl, dialable⟩)
      · have isDeclared : name ∈ declared.names := Decidable.byContradiction fun undeclared =>
          notStale (mem_stale.mpr ⟨(between.names name).mpr live, undeclared⟩)
        obtain ⟨target, found⟩ := Option.isSome_iff_exists.mp (NameMap.mem_names.mp isDeclared)
        exact ⟨target, found, .inl live⟩
      · exact ⟨entry.2, (mem_fresh.mp member).1, .inr dialable⟩
    · rintro ⟨target, found, reason⟩
      by_cases live : name ∈ state.registry.names
      · exact .inl ⟨live, fun stale => (mem_stale.mp stale).2 (NameMap.mem_names_of_get? found)⟩
      · have missing : name ∉ asked.registry.names := fun is => live ((between.names name).mp is)
        exact .inr ⟨(name, target), mem_fresh.mpr ⟨found, missing⟩, rfl,
          reason.resolve_left live⟩

end Telemetry.Reconciler
