import Telemetry.Proofs.Declaration.Layers
import Telemetry.Proofs.Layer.Lowest

/-!
What a declaration keeps when a file is put on top of it. Its targets go through key paths, which
lead through plain names only: a target of a plain name is kept where the file says nothing of it,
while one of another name is lost, and what its name starts with is declared in its place.
-/

namespace Telemetry.Declaration

open Layer (Entries IsPlain Node SilentAt environmentKey? environmentLayer gather leadingName)
open Text (lowercase)

variable {declaration base : Declaration} {world : World} {path name : String} {file : Entries}

/-- No variable counts. -/
def IsQuiet (environment : Environment) : Prop :=
  ∀ binding ∈ environment, environmentKey? binding.1 = none

theorem environmentLayer_of_isQuiet {environment : Environment} (quiet : IsQuiet environment) :
    environmentLayer environment = [] := by
  refine List.filterMap_eq_nil_iff.mpr fun binding member => ?_
  unfold Layer.environmentEntry?
  rw [quiet binding member]
  split <;> rfl

/-- Where no variable counts, the layers are those of the declaration and of the file. -/
theorem ofLayers_of_isQuiet (quiet : IsQuiet world.environment)
    (reads : Layer.fileLayer world.files path = .ok file)
    (done : base.overriddenBy world path = .ok declaration) :
    ∃ lowest, Layer.base base = .ok lowest ∧ ofLayers [lowest, file, []] = .ok declaration := by
  obtain ⟨lowest, own, made, isOwn, read⟩ := overriddenBy_layers done
  rw [reads] at isOwn
  cases isOwn
  rw [environmentLayer_of_isQuiet quiet] at read
  exact ⟨lowest, made, read⟩

/-- What stands at and below a place that the file says nothing of is what the lowest layer has. -/
theorem at?_gather_of_silentAt {place : List String} (silent : SilentAt file place)
    (lowest : Entries) (more : List String) :
    (gather [lowest, file, []]).at? (place ++ more) = (gather [lowest]).at? (place ++ more) := by
  have same : (gather [lowest, file, []]).at? place = (gather [lowest]).at? place :=
    Layer.at?_overlay_of_silentAt silent
  rw [Node.at?_append, Node.at?_append, same]

section Keeping

variable (lower : ∀ own ∈ base.targets.names, lowercase own = own)
  (quiet : IsQuiet world.environment) (reads : Layer.fileLayer world.files path = .ok file)
  (done : base.overriddenBy world path = .ok declaration)

include lower quiet reads done

theorem settings_kept (silent : SilentAt file ["global"]) :
    declaration.settings = base.settings := by
  obtain ⟨lowest, made, read⟩ := ofLayers_of_isQuiet quiet reads done
  obtain ⟨tree, writable⟩ := Layer.gather_base lower made
  have same : ∀ field, (gather [lowest, file, []]).at? ["global", field] =
      (gather [lowest]).at? ["global", field] :=
    fun field => at?_gather_of_silentAt silent lowest [field]
  obtain ⟨node, stands⟩ := Layer.format_stands_layer lower writable
  rw [← tree, ← same] at stands
  have taken := settings_of_below read stands
  simp only [same, tree] at taken
  exact taken.eq (Layer.settings_takenFrom_layer lower writable)

/-- Of the names that the file says nothing of, the plain ones are declared that a name of the base
starts with. -/
theorem isSome_get?_iff (silent : SilentAt file ["targets", name]) :
    (declaration.targets.get? name).isSome ↔
      IsPlain name ∧ ∃ own ∈ base.targets.names, leadingName own = name := by
  obtain ⟨lowest, made, read⟩ := ofLayers_of_isQuiet quiet reads done
  obtain ⟨tree, writable⟩ := Layer.gather_base lower made
  have same := at?_gather_of_silentAt silent lowest []
  rw [List.append_nil, tree] at same
  have stands := Layer.isSome_at?_layer lower writable name
  rw [← same] at stands
  have plain : (∃ own ∈ base.targets.names, leadingName own = name) → IsPlain name := by
    rintro ⟨own, member, rfl⟩
    exact Layer.isPlain_leadingName lower writable member
  rw [and_iff_right_of_imp plain, ← stands]
  exact isSome_get?_of_ofLayers read name

theorem target_kept (silent : SilentAt file ["targets", name]) (plain : IsPlain name)
    (alone : ∀ own ∈ base.targets.names, leadingName own = name → own = name) :
    declaration.targets.get? name = base.targets.get? name := by
  cases declared : base.targets.get? name with
  | none =>
      rw [← Option.not_isSome_iff_eq_none, isSome_get?_iff lower quiet reads done silent]
      rintro ⟨_, own, member, leads⟩
      rw [alone own member leads, NameMap.mem_names, declared] at member
      cases member
  | some target =>
      obtain ⟨lowest, made, read⟩ := ofLayers_of_isQuiet quiet reads done
      obtain ⟨tree, writable⟩ := Layer.gather_base lower made
      have same : ∀ part, (gather [lowest, file, []]).at? ["targets", name, part] =
          (Layer.overlay Node.emptyTable (Layer.layerOf base)).at? ["targets", name, part] :=
        fun part => (at?_gather_of_silentAt silent lowest [part]).trans (by rw [tree]; rfl)
      obtain ⟨⟨node, stands⟩, taken, list⟩ :=
        Layer.target_takenFrom_layer lower writable declared plain alone
      rw [← same] at stands
      obtain ⟨own, isOwn, ownTaken, ownList⟩ := target_of_below read stands
      simp only [same] at ownTaken ownList
      rw [isOwn, ownTaken.eq taken (ownList.eq list)]

/-- An empty file leaves a declaration as it is just when all its targets have plain names. -/
theorem kept_by_nothing_iff (nothing : file = []) :
    declaration = base ↔ ∀ own ∈ base.targets.names, IsPlain own := by
  subst nothing
  have silent : ∀ place, SilentAt [] place := fun _ => nofun
  have declared {name : String} := isSome_get?_iff lower quiet reads done (silent ["targets", name])
  constructor
  · rintro rfl own member
    exact (declared.mp (NameMap.mem_names.mp member)).1
  · intro plain
    have targets : declaration.targets = base.targets := by
      refine NameMap.ext_get? fun name => ?_
      by_cases isPlain : IsPlain name
      · refine target_kept lower quiet reads done (silent _) isPlain fun own member leads => ?_
        rwa [Layer.leadingName_of_isPlain (plain own member)] at leads
      · have absent : ∀ set : TargetSet, ¬ (set.get? name).isSome → set.get? name = none :=
          fun set => Option.not_isSome_iff_eq_none.mp
        rw [absent declaration.targets fun isSome => isPlain (declared.mp isSome).1,
          absent base.targets fun isSome => isPlain (plain name (NameMap.mem_names.mpr isSome))]
    have settings := settings_kept lower quiet reads done (silent _)
    cases declaration
    cases base
    exact congrArg₂ Declaration.mk settings targets

/-- What is kept under a file. A target of which the file says nothing is kept where its name is
plain and starts no other one's; a name that is not plain is declared no more, and what it starts
with is. Settings of which the file says nothing are kept, and an empty file keeps everything just
when all names are plain. -/
theorem overridden_keeps :
    (∀ name, SilentAt file ["targets", name] →
      ((declaration.targets.get? name).isSome ↔
        IsPlain name ∧ ∃ own ∈ base.targets.names, leadingName own = name) ∧
      (IsPlain name → (∀ own ∈ base.targets.names, leadingName own = name → own = name) →
        declaration.targets.get? name = base.targets.get? name)) ∧
    (SilentAt file ["global"] → declaration.settings = base.settings) ∧
    (file = [] → (declaration = base ↔ ∀ own ∈ base.targets.names, IsPlain own)) :=
  ⟨fun _ silent => ⟨isSome_get?_iff lower quiet reads done silent,
    target_kept lower quiet reads done silent⟩, settings_kept lower quiet reads done,
    kept_by_nothing_iff lower quiet reads done⟩

end Keeping

/-- A declaration of one target, with all that it may have. -/
def oneFull (name : String) : Declaration :=
  ⟨Settings.default, NameMap.ofList [(name, ⟨"", "10.0.0.1:57400", some "admin", some "0123",
    some true, some false, some 2500, some "ca.pem", ["a", "b"]⟩)]⟩

theorem oneFull_overridden : (oneFull "r1").overriddenBy (worldOf "[targets.r2]\n" []) "c.toml" =
    .ok ⟨Settings.default, (oneFull "r1").targets.insert "r2" Target.default⟩ := by
  decide +kernel

/-- A target beside one that the file declares. -/
theorem plain_target_kept :
    let world := worldOf "[targets.r2]\n" []
    ∃ declaration, (oneFull "r1").overriddenBy world "c.toml" = .ok declaration ∧
      declaration.targets.get? "r1" = (oneFull "r1").targets.get? "r1" := by
  intro world
  obtain ⟨file, reads, silence⟩ := exists_ok_of_any (show (Layer.fileLayer world.files
    "c.toml").toOption.any (fun file => decide (SilentAt file ["targets", "r1"])) = true by
      decide +kernel)
  have quiet : IsQuiet world.environment := show IsQuiet [] from nofun
  have keeps := (overridden_keeps (by decide +kernel) quiet reads oneFull_overridden).1
  exact ⟨_, oneFull_overridden,
    (keeps "r1" (of_decide_eq_true silence)).2 (by decide +kernel) (by decide +kernel)⟩

/-- A name with points is cut off at the first one, and its target is lost. -/
theorem address_cut_off :
    (oneFull "10.0.0.1").overriddenBy (worldOf "" []) "c.toml" =
      .ok ⟨Settings.default, NameMap.ofList [("10", Target.default)]⟩ := by
  decide +kernel

end Telemetry.Declaration
