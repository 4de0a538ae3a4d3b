import Telemetry.Declaration.Source
import Telemetry.Proofs.NameMap

/-!
What a file source answers: the resolved targets of the declaration that it keeps after the reading,
each under its own name.
-/

namespace Telemetry

/-- Every target is declared under its own name. -/
def TargetSet.IsKeyed (declared : TargetSet) : Prop :=
  ∀ name target, declared.get? name = some target → target.name = name

/-- A source that declares every target under its own name. -/
class KeyedSource (σ : Type) [TargetSource σ] : Prop where
  keyed : ∀ (source : σ) (declared : TargetSet),
    (TargetSource.read source).1 = .ok declared → declared.IsKeyed

theorem TargetSet.isKeyed_empty : TargetSet.IsKeyed NameMap.empty := by
  intro name target found
  cases found

namespace Declaration

variable {loaded : Except ConfigError Declaration} {reason : Error}

/-- The declared targets, resolved, be there any or not. -/
def resolvedSet (declaration : Declaration) : TargetSet :=
  declaration.targets.mapWithName fun name target => target.resolve name declaration.settings

theorem get?_resolvedSet (declaration : Declaration) (name : String) :
    declaration.resolvedSet.get? name =
      (declaration.targets.get? name).map fun target => target.resolve name declaration.settings :=
  NameMap.get?_mapWithName _ _ _

theorem isKeyed_resolvedSet (declaration : Declaration) :
    TargetSet.IsKeyed declaration.resolvedSet := by
  intro name target found
  rw [get?_resolvedSet] at found
  obtain ⟨declared, _, rfl⟩ := Option.map_eq_some_iff.mp found
  rfl

/-- A declaration resolves to its targets unless it has none. -/
theorem resolved_cases (declaration : Declaration) :
    FileSource.resolved declaration = .ok declaration.resolvedSet ∨
      (declaration.resolvedSet = NameMap.empty ∧
        FileSource.resolved declaration = .error (.target .noTargets)) := by
  by_cases nothing : declaration.targets.isEmpty
  · refine .inr ⟨?_, by simp [FileSource.resolved, resolvedTargets, nothing]⟩
    have noEntries : declaration.targets.entries = [] := List.isEmpty_iff.mp nothing
    exact NameMap.ext (by simp [resolvedSet, NameMap.mapWithName, noEntries, NameMap.empty])
  · exact .inl (by simp [FileSource.resolved, resolvedTargets, nothing, resolvedSet])

theorem not_isNoTargets_of_checked (refused : checked loaded = .error reason) :
    reason.isNoTargets = false := by
  unfold checked at refused
  cases loaded with
  | error fault =>
      cases refused
      rfl
  | ok declaration =>
      simp only at refused
      split at refused <;> cases refused
      rfl

end Declaration

namespace FileSource

variable {source : FileSource} {path : String} {world : World}

theorem read_of_unnamed (unnamed : source.path = none) :
    source.read world = (resolved source.current, source) := by
  simp only [read, unnamed]

theorem read_of_usable (named : source.path = some path) {declaration : Declaration}
    (usable : Declaration.checked (Declaration.ofFile world path) = .ok declaration) :
    source.read world = (resolved declaration, { source with current := declaration }) := by
  simp only [read, named, usable]

theorem read_of_unusable (named : source.path = some path) {reason : Error}
    (unusable : Declaration.checked (Declaration.ofFile world path) = .error reason) :
    source.read world = (.error reason, source) := by
  simp only [read, named, unusable]

/-- Whatever a file source reads, it answers with the targets of what it keeps. -/
theorem read_cases (source : FileSource) (world : World) :
    (source.read world).1 = resolved (source.read world).2.current ∨
      ∃ reason, source.read world = (.error reason, source) := by
  cases named : source.path with
  | none => exact .inl (by rw [read_of_unnamed named])
  | some path =>
      cases used : Declaration.checked (Declaration.ofFile world path) with
      | error reason => exact .inr ⟨reason, read_of_unusable named used⟩
      | ok declaration => exact .inl (by rw [read_of_usable named used])

end FileSource

instance : KeyedSource PlacedSource where
  keyed := by
    intro placed declared answered
    change (placed.source.read placed.world).1 = .ok declared at answered
    rcases placed.source.read_cases placed.world with kept | ⟨reason, refused⟩
    · rw [kept] at answered
      rcases Declaration.resolved_cases (placed.source.read placed.world).2.current with
        resolved | ⟨_, nothing⟩
      · rw [resolved] at answered
        cases answered
        exact Declaration.isKeyed_resolvedSet _
      · rw [nothing] at answered
        cases answered
    · rw [refused] at answered
      cases answered

/-- A source that declares targets without a file. -/
def PlacedSource.declaring (targets : List Target) : PlacedSource :=
  ⟨⟨none, { Declaration.default with
      targets := NameMap.ofList (targets.map fun target => (target.name, target)) }⟩,
    ⟨Files.Tree.empty [], []⟩⟩

end Telemetry
