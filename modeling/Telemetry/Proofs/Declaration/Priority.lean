import Telemetry.Proofs.Declaration.Defaults
import Telemetry.Proofs.Declaration.Layers
import Telemetry.Proofs.Layer.Lowest
import Telemetry.Proofs.Layer.NamedValues
import Telemetry.Proofs.Layer.PlainFile

/-!
The priority of the layers. Each setting, and each part of a target, has the value of the variable
that names it, or else the one of the file, or else the default; the targets are those of the file
and those that variables name.
-/

namespace Telemetry.Declaration

open Layer (Entries IsPlainFile IsScalarPlace IsVaried NamesScalars Node environmentLayer gather
  layerOf overlay scalarNames settingNames variableFor?)

variable {declaration : Declaration} {world : World} {path name : String} {file : Entries}

/-- What the variables and the file give for a place, the variables first. -/
def given (environment : Environment) (file : Entries) (place : List String) : Option Node :=
  (variableFor? environment place).or ((Node.table none file).at? place)

/-- The tree of the defaults. -/
def defaultTree : Node := overlay Node.emptyTable (layerOf Declaration.default)

theorem lower_default :
    ∀ own ∈ Declaration.default.targets.names, Text.lowercase own = own := nofun

theorem ofLayers_of_ofFile (reads : Layer.fileLayer world.files path = .ok file)
    (done : ofFile world path = .ok declaration) :
    Layer.Writable (Layer.declarationLeaves Declaration.default) ∧
      ∃ layers, ofLayers layers = .ok declaration ∧
        gather layers =
          overlay (overlay defaultTree file) (environmentLayer world.environment) := by
  obtain ⟨lowest, own, made, isOwn, read⟩ := overriddenBy_layers done
  rw [reads] at isOwn
  cases isOwn
  obtain ⟨tree, writable⟩ := Layer.gather_base lower_default made
  refine ⟨writable, _, read, ?_⟩
  rw [defaultTree, ← tree]
  rfl

theorem isTable_defaultTree : ∃ origin entries, defaultTree = .table origin entries :=
  Layer.isTable_overlay Layer.isTable_emptyTable _

theorem at?_defaultTree_target
    (writable : Layer.Writable (Layer.declarationLeaves Declaration.default)) (name : String)
    (more : List String) : defaultTree.at? (["targets", name] ++ more) = none := by
  rw [← Option.not_isSome_iff_eq_none]
  intro stands
  obtain ⟨own, member, _⟩ := (Layer.isSome_at?_layer lower_default writable name).mp (Node.isSome_of_below _ stands)
  cases member

section Priority

variable (reads : Layer.fileLayer world.files path = .ok file) (plain : IsPlainFile file)
  (scalars : NamesScalars world.environment) (done : ofFile world path = .ok declaration)

include reads plain scalars done

theorem isSome_get?_ofFile (name : String) : (declaration.targets.get? name).isSome ↔
    ((Node.table none file).at? ["targets", name]).isSome ∨ IsVaried world.environment name := by
  obtain ⟨writable, layers, read, tree⟩ := ofLayers_of_ofFile reads done
  have targets := ((Layer.at?_overlay_file plain (Layer.tidy_fileLayer reads)
    isTable_defaultTree).2 name).1
  have nothing : defaultTree.at? ["targets", name] = none :=
    at?_defaultTree_target writable name []
  rw [isSome_get?_of_ofLayers read, tree, Layer.isSome_at?_overlay_variables scalars, targets,
    nothing, Option.isSome_none]
  simp only [Bool.false_eq_true, or_false]

theorem settings_ofFile :
    declaration.settings.TakenFrom fun field => given world.environment file ["global", field] := by
  obtain ⟨writable, layers, read, tree⟩ := ofLayers_of_ofFile reads done
  have settings := (Layer.at?_overlay_file plain (Layer.tidy_fileLayer reads)
    isTable_defaultTree).1
  have same : ∀ field ∈ settingNames, (gather layers).at? ["global", field] =
      (given world.environment file ["global", field]).or (defaultTree.at? ["global", field]) := by
    intro field isField
    rw [tree, Layer.at?_overlay_variables scalars _ (.setting isField), settings, given,
      Option.or_assoc]
  obtain ⟨node, stands⟩ :=
    Layer.format_stands_layer lower_default writable
  have found : ∃ node, (gather layers).at? ["global", "format"] = some node := by
    rw [same "format" (by decide), defaultTree, stands]
    cases given world.environment file ["global", "format"] <;> exact ⟨_, rfl⟩
  obtain ⟨_, found⟩ := found
  exact ((settings_of_below read found).congr same).of_or
    (Layer.settings_takenFrom_layer lower_default writable)

theorem target_ofFile {target : Target} (declared : declaration.targets.get? name = some target) :
    (target.TakenFrom fun part => given world.environment file ["targets", name, part]) ∧
      Layer.Takes (Layer.readList Layer.readText)
        ((Node.table none file).at? ["targets", name, "subscriptions"]) [] target.subscriptions := by
  obtain ⟨writable, layers, read, tree⟩ := ofLayers_of_ofFile reads done
  have tidy := Layer.tidy_fileLayer reads
  have parts := ((Layer.at?_overlay_file plain tidy isTable_defaultTree).2 name).2
  have nothing := at?_defaultTree_target writable name
  have inFile : ∀ part, (overlay defaultTree file).at? ["targets", name, part] =
      (Node.table none file).at? ["targets", name, part] := by
    intro part
    have absent : defaultTree.at? ["targets", name, part] = none := nothing [part]
    rw [parts, absent, Option.or_none]
  have noList := Layer.ne_list_overlay_variables scalars
    (Layer.ne_list_overlay_file plain tidy isTable_defaultTree (nothing []))
  rw [← tree] at noList
  rcases target_of_ofLayers read name noList with ⟨_, absent⟩ | ⟨own, _, isOwn, taken, list⟩
  · rw [absent] at declared
    cases declared
  · rw [isOwn] at declared
    cases declared
    refine ⟨taken.congr fun part isPart => ?_, ?_⟩
    · rw [tree, Layer.at?_overlay_variables scalars _ (.target name isPart), inFile, given]
    · rw [tree, Layer.at?_overlay_of_silentAt (scalars.silentAt_subscriptions name), inFile] at list
      exact list

/-- What is loaded does not depend on the order of the variables. -/
theorem ofFile_perm {environment : Environment} {other : Declaration}
    (perm : world.environment.Perm environment)
    (otherDone : ofFile ⟨world.files, environment⟩ path = .ok other) : other = declaration := by
  let otherWorld : World := ⟨world.files, environment⟩
  have otherReads : Layer.fileLayer otherWorld.files path = .ok file := reads
  have otherScalars : NamesScalars otherWorld.environment := scalars.perm perm
  have same : ∀ place, IsScalarPlace place →
      given environment file place = given world.environment file place := by
    intro place isPlace
    rw [given, given, Layer.variableFor?_perm scalars perm isPlace]
  have varied : ∀ name, IsVaried environment name ↔ IsVaried world.environment name := by
    intro name
    refine exists_congr fun part => and_congr_right fun isPart => ?_
    rw [Layer.variableFor?_perm scalars perm (.target name isPart)]
  have settings : other.settings = declaration.settings :=
    ((settings_ofFile otherReads plain otherScalars otherDone).congr fun field isField => same _ (.setting isField)).eq
        (settings_ofFile reads plain scalars done)
  have targets : other.targets = declaration.targets := by
    refine NameMap.ext_get? fun name => ?_
    have names : (other.targets.get? name).isSome ↔ (declaration.targets.get? name).isSome := by
      rw [isSome_get?_ofFile otherReads plain otherScalars otherDone, varied, isSome_get?_ofFile reads plain scalars done]
    cases declared : declaration.targets.get? name with
    | none =>
        rw [declared] at names
        exact Option.not_isSome_iff_eq_none.mp (mt names.mp (by simp))
    | some target =>
        rw [declared] at names
        obtain ⟨otherTarget, otherDeclared⟩ := Option.isSome_iff_exists.mp (names.mpr rfl)
        obtain ⟨taken, list⟩ := target_ofFile reads plain scalars done declared
        obtain ⟨otherTaken, otherList⟩ := target_ofFile otherReads plain otherScalars
          otherDone otherDeclared
        rw [otherDeclared, (otherTaken.congr fun part isPart => same _ (.target name isPart)).eq
          taken (otherList.eq list)]
  cases other
  cases declaration
  exact congrArg₂ Declaration.mk settings targets

/-- The targets are those of the file and those that variables name. Each setting and each part of a
target has what the variables give, or else what the file gives, or else its default, in whatever
order the variables stand. -/
theorem ofFile_priority :
    (∀ name, (declaration.targets.get? name).isSome ↔
      ((Node.table none file).at? ["targets", name]).isSome ∨ IsVaried world.environment name) ∧
    (declaration.settings.TakenFrom fun field =>
      given world.environment file ["global", field]) ∧
    (∀ name target, declaration.targets.get? name = some target →
      (target.TakenFrom fun part => given world.environment file ["targets", name, part]) ∧
      Layer.Takes (Layer.readList Layer.readText)
        ((Node.table none file).at? ["targets", name, "subscriptions"]) [] target.subscriptions) ∧
    ∀ environment other, world.environment.Perm environment →
      ofFile ⟨world.files, environment⟩ path = .ok other → other = declaration :=
  ⟨isSome_get?_ofFile reads plain scalars done, settings_ofFile reads plain scalars done,
    fun _ _ => target_ofFile reads plain scalars done,
    fun _ _ => ofFile_perm reads plain scalars done⟩

end Priority

/-- A file with a target, and variables for a setting and for another target. -/
def layeredWorld : World :=
  worldOf "[global]\nlog = true\n\n[targets.r_1]\naddress = \"10.0.0.1:57400\"\n"
    [("COLLECTOR__GLOBAL__LOG", "off"), ("PATH", "/bin"),
      ("Collector__Targets__R2__Username", "me")]

theorem layeredWorld_loads : ofFile layeredWorld "c.toml" = .ok ⟨Settings.default,
    NameMap.ofList [("r_1", Target.ofAddress "" "10.0.0.1:57400"),
      ("r2", { Target.default with username := some "me" })]⟩ := by
  rw [ofFile_eq]
  decide +kernel

theorem layeredWorld_namesScalars : NamesScalars layeredWorld.environment where
  each := by
    have counts : Layer.counting layeredWorld.environment = [("COLLECTOR__GLOBAL__LOG", "off"),
        ("Collector__Targets__R2__Username", "me")] := by decide +kernel
    rw [counts, List.forall_mem_cons, List.forall_mem_singleton]
    exact ⟨⟨by decide, ["global", "log"], .setting (by decide), by decide +kernel,
      by decide +kernel⟩, by decide, ["targets", "r2", "username"], .target "r2" (by decide),
      by decide +kernel, by decide +kernel⟩
  distinct := by decide +kernel

/-- The variable for a target that the file does not have. -/
theorem target_of_variable_declared :
    ∃ declaration, ofFile layeredWorld "c.toml" = .ok declaration ∧
      (declaration.targets.get? "r2").isSome := by
  obtain ⟨file, reads, plain⟩ := exists_ok_of_any (show (Layer.fileLayer layeredWorld.files
    "c.toml").toOption.any (fun file => decide (IsPlainFile file)) = true by decide +kernel)
  obtain ⟨names, -⟩ := ofFile_priority reads (of_decide_eq_true plain) layeredWorld_namesScalars
    layeredWorld_loads
  have varied : IsVaried layeredWorld.environment "r2" := ⟨"username", by decide, by decide +kernel⟩
  exact ⟨_, layeredWorld_loads, (names "r2").mpr (.inr varied)⟩

end Telemetry.Declaration
