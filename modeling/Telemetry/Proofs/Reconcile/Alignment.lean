import Telemetry.Proofs.Reconcile.Convergence
import Telemetry.Proofs.Reconcile.Serial

/-!
A registry in line with the declaration that was read last. The file may be rewritten at any moment:
a pass that has read it goes by what it has read.
-/

namespace Telemetry.Reconciler

open Program (AsksOnly Ensures)

variable {α : Type} {program : PassProgram α} {path : String}
  {before middle later state : Reconciler PlacedSource Registry InitTask}

/-- The declaration that was read last. -/
def current (state : Reconciler PlacedSource Registry InitTask) : Declaration :=
  state.source.source.current

/-- The live names are the declared ones, as far as was read. -/
def InLine (state : Reconciler PlacedSource Registry InitTask) : Prop :=
  ∀ name, name ∈ state.registry.names ↔ name ∈ state.current.targets.names

/-- The live names are as they were, while the world that the source reads from may be another. -/
structure Alike (before later : Reconciler PlacedSource Registry InitTask) : Prop where
  steady : Steady before (later.withSource before.source)
  source : later.source.source = before.source.source

namespace Alike

theorem refl (state : Reconciler PlacedSource Registry InitTask) : Alike state state :=
  ⟨Steady.refl state, rfl⟩

theorem trans (first : Alike before middle) (second : Alike middle later) :
    Alike before later where
  steady := ⟨fun name => (second.steady.names name).trans (first.steady.names name), rfl,
    second.steady.failedDeletes.trans first.steady.failedDeletes⟩
  source := second.source.trans first.source

theorem of_steady (steady : Steady before later) : Alike before later where
  steady := ⟨steady.names, rfl, steady.failedDeletes⟩
  source := congrArg (·.source) steady.source

theorem in_world (state : Reconciler PlacedSource Registry InitTask) (world : World) :
    Alike state (state.withSource { state.source with world := world }) :=
  ⟨Steady.refl state, rfl⟩

theorem current (alike : Alike before later) : later.current = before.current :=
  congrArg (·.current) alike.source

theorem inLine (alike : Alike before later) (inLine : before.InLine) : later.InLine := by
  intro name
  rw [alike.current]
  exact (alike.steady.names name).trans (inLine name)

end Alike

theorem source_settled {question : PassQuestion} (settled : Pass.IsSettled question)
    (state : Reconciler PlacedSource Registry InitTask) :
    (handler question state).2.source = state.source := by
  cases question with
  | declared => exact absurd rfl settled
  | _ => rfl

/-- What a pass ensures that has read what is declared, it ensures while the file is rewritten. -/
theorem ensures_alike {post : α → Reconciler PlacedSource Registry InitTask → Prop}
    (settled : AsksOnly Pass.IsSettled program)
    (ensured : Ensures handler Steady post program state) (alike : Alike state later) :
    Ensures handler Alike
      (fun result after => post result (after.withSource state.source) ∧
        after.source.source = state.source.source) program later := by
  induction program generalizing state later with
  | done result =>
      intro after between
      have both := alike.trans between
      exact ⟨ensured _ both.steady, both.source⟩
  | ask question next ih =>
      intro asked between
      have both := alike.trans between
      have rest := ensured _ both.steady
      rw [handler_withSource settled.1] at rest
      refine @ih _ (handler question asked).2 ((handler question asked).2.withSource state.source)
        (settled.2 _) rest ⟨Steady.refl _, ?_⟩
      rw [source_settled settled.1]
      exact both.source

/-- What is ensured amid changes of a kind is ensured after such a change. -/
theorem Alike.ensures {post : α → Reconciler PlacedSource Registry InitTask → Prop}
    (alike : Alike state later) (ensured : Ensures handler Alike post program state) :
    Ensures handler Alike post program later := by
  cases program with
  | done result => exact fun after between => ensured after (alike.trans between)
  | ask question next => exact fun asked between => ensured asked (alike.trans between)

/-- All declared targets can be dialled. -/
def AllDialable (declaration : Declaration) : Prop :=
  ∀ name target, declaration.resolvedSet.get? name = some target → target.isDialable = true

theorem allDialable_iff {declaration : Declaration} :
    AllDialable declaration ↔
      ∀ entry ∈ declaration.resolvedSet.entries, entry.2.isDialable = true := by
  constructor
  · exact fun each entry member => each entry.1 entry.2 (NameMap.mem_entries.mp member)
  · exact fun each name target found => each (name, target) (NameMap.mem_entries.mpr found)

instance (declaration : Declaration) : Decidable (AllDialable declaration) :=
  decidable_of_iff _ allDialable_iff.symm

/-- A pass that goes by a declaration whose targets can all be dialled brings the registry in line
with it, whatever is written to the file in the meantime. -/
theorem forDeclared_aligns (dialable : AllDialable state.current) :
    Ensures handler Alike (fun _ later => later.InLine ∧ later.current = state.current)
      (Pass.forDeclared state.current.resolvedSet) state := by
  have settled : AsksOnly Pass.IsSettled (Pass.forDeclared state.current.resolvedSet) :=
    Pass.afterReading_settled (.ok _)
  refine (ensures_alike settled (forDeclared_ensures state state.current.isKeyed_resolvedSet)
    (Alike.refl state)).mono ?_
  rintro result later ⟨⟨_, reached⟩, same⟩
  have sameCurrent : later.current = state.current := congrArg (·.current) same
  refine ⟨?_, sameCurrent⟩
  intro name
  rw [sameCurrent]
  refine (reached.names name).trans ?_
  have declared : name ∈ state.current.targets.names ↔
      (state.current.resolvedSet.get? name).isSome = true := by
    rw [← NameMap.mem_names, Declaration.resolvedSet, NameMap.names_mapWithName]
  rw [declared, Option.isSome_iff_exists]
  constructor
  · rintro ⟨target, found, _⟩
    exact ⟨target, found⟩
  · rintro ⟨target, found⟩
    exact ⟨target, found, .inr (dialable name target found)⟩

end Telemetry.Reconciler
