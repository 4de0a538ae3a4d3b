import Telemetry.Proofs.Declaration.Defaults
import Telemetry.Proofs.Declaration.Overriding
import Telemetry.Proofs.Layer.PlainFile
import Telemetry.Proofs.Reconcile.Convergence

/-!
The targets that a file declares in tables of their own. Keys are put into lower case, so the tables
are kept apart just when their keys stay different; each is then one target, and as many targets are
counted and managed as there are tables. Tables whose keys become the same add up to one target.
-/

namespace Telemetry

open Text (lowercase)

namespace Layer

variable {entries tables : List (String × Node)} {entry : String × Node} {name : String}
  {file : Entries} {origin : Option String}

/-- The keys of entries as they are stored. -/
def storedKeys (entries : List (String × Node)) : List String :=
  entries.map fun entry => lowercase entry.1

theorem storedKeys_cons (entry : String × Node) (rest : List (String × Node)) :
    storedKeys (entry :: rest) = lowercase entry.1 :: storedKeys rest := rfl

theorem mem_storedKeys (member : entry ∈ entries) : lowercase entry.1 ∈ storedKeys entries :=
  List.mem_map_of_mem member

theorem child?_mergeEntries_of_absent (absent : name ∉ storedKeys entries) (target : Node) :
    (mergeEntries entries target).child? name = target.child? name := by
  induction entries generalizing target with
  | nil => rw [mergeEntries]
  | cons first rest ih =>
      obtain ⟨key, value⟩ := first
      rw [storedKeys_cons, List.mem_cons, not_or] at absent
      rw [mergeEntries, ih absent.2, Node.child?_put, if_neg absent.1]

theorem isSome_child?_mergeEntries (entries : List (String × Node)) (target : Node)
    (name : String) : ((mergeEntries entries target).child? name).isSome ↔
      (target.child? name).isSome ∨ name ∈ storedKeys entries := by
  induction entries generalizing target with
  | nil => simp [mergeEntries, storedKeys]
  | cons first rest ih =>
      obtain ⟨key, value⟩ := first
      rw [mergeEntries, ih, Node.child?_put, storedKeys_cons, List.mem_cons]
      by_cases same : name = lowercase key
      · simp [same]
      · simp [same]

/-- Where no two keys become the same, each entry is put on top of what was there before all. -/
theorem child?_mergeEntries_of_distinct (distinct : (storedKeys entries).Nodup)
    (member : entry ∈ entries) (target : Node) :
    (mergeEntries entries target).child? (lowercase entry.1) =
      some (merge entry.2 (target.child? (lowercase entry.1))) := by
  induction entries generalizing target with
  | nil => cases member
  | cons first rest ih =>
      obtain ⟨key, value⟩ := first
      rw [storedKeys_cons, List.nodup_cons] at distinct
      rw [mergeEntries]
      rcases List.mem_cons.mp member with rfl | inRest
      · rw [child?_mergeEntries_of_absent distinct.1, Node.child?_put, if_pos rfl]
      · have other : lowercase entry.1 ≠ lowercase key :=
          ne_of_mem_of_not_mem (mem_storedKeys inRest) distinct.1
        rw [ih distinct.2 inRest, Node.child?_put, if_neg other]

/-- Of the keys of a file no other one leads to the targets. -/
def TargetsAlone (file : Entries) : Prop :=
  ∀ entry ∈ file, entry.1 ≠ "targets" → Misses (KeyPath.ofKey entry.1) entry.2 ["targets"]

instance (file : Entries) : Decidable (TargetsAlone file) :=
  inferInstanceAs (Decidable (∀ entry ∈ file, _ → _))

theorem at?_overlay_tables (tidy : (Node.table none file).Tidy)
    (table : ("targets", .table origin tables) ∈ file) (alone : TargetsAlone file) (tree : Node) :
    (overlay tree file).at? ["targets"] =
      some (mergeEntries tables ((tree.at? ["targets"]).getD Node.emptyTable)) := by
  obtain ⟨before, after, rfl⟩ := List.append_of_mem table
  obtain ⟨_, tableFirst, beforeAll⟩ := List.pairwise_append.mp tidy.ascending
  have silentBefore : SilentAt before ["targets"] := by
    intro entry member
    have below : entry.1 < "targets" := beforeAll entry member _ List.mem_cons_self
    exact alone entry (List.mem_append_left _ member) (String.ne_of_lt below)
  have silentAfter : SilentAt after ["targets"] := by
    intro entry member
    have above : "targets" < entry.1 := (List.pairwise_cons.mp tableFirst).1 entry member
    exact alone entry (List.mem_append_right _ (List.mem_cons_of_mem _ member))
      (String.ne_of_lt above).symm
  have lower : ∀ name ∈ ["targets"], lowercase name = name :=
    List.forall_mem_singleton.mpr isSettled_targets.2
  have leads : KeyPath.ofKey "targets" = ["targets"].map .name := by decide +kernel
  rw [at?_overlay_last tree before after _ lower leads silentAfter,
    at?_overlay_of_silentAt silentBefore, merge]

end Layer

namespace Declaration

open Layer (Entries Node TargetsAlone merge mergeEntries overlay readDeclaration readTarget
  storedKeys)
open Layer.Node (emptyTable)

variable {declaration : Declaration} {world : World} {path name : String} {file : Entries}
  {origin : Option String} {tables : List (String × Node)} {entry : String × Node}

/-- As many targets as there are tables, one for each, read from its own table only. -/
structure DeclaresEach (declaration : Declaration) (tables : List (String × Node)) : Prop where
  count : declaration.targets.size = tables.length
  own : ∀ entry ∈ tables, ∃ target,
    declaration.targets.get? (lowercase entry.1) = some target ∧
      readTarget (merge entry.2 none) = .ok target

section Tables

variable (reads : Layer.fileLayer world.files path = .ok file)
  (table : ("targets", .table origin tables) ∈ file) (alone : TargetsAlone file)
  (quiet : IsQuiet world.environment) (done : ofFile world path = .ok declaration)

include reads table alone quiet done

/-- A target is read from what stands under its name once the tables are put one after the other
where nothing was. -/
theorem target_of_tables (name : String) :
    ((mergeEntries tables emptyTable).child? name = none ∧
        declaration.targets.get? name = none) ∨
      ∃ node target, (mergeEntries tables emptyTable).child? name = some node ∧
        readTarget node = .ok target ∧ declaration.targets.get? name = some target := by
  have read : readDeclaration (overlay settingsTree file) = .ok declaration := by
    rw [ofFile_eq, reads, environmentLayer_of_isQuiet quiet] at done
    exact done
  have place : (overlay settingsTree file).at? ["targets", name] =
      (mergeEntries tables emptyTable).child? name := by
    have nothing : settingsTree.at? ["targets"] = none := rfl
    have merged := Layer.at?_overlay_tables (Layer.tidy_fileLayer reads) table alone settingsTree
    have below := Node.at?_append (overlay settingsTree file) ["targets"] [name]
    rw [merged, nothing, Option.bind_some, Node.at?_singleton] at below
    exact below
  have isTable : ∃ origin entries, overlay settingsTree file = .table origin entries :=
    Layer.isTable_overlay ⟨_, _, rfl⟩ file
  rw [← place]
  exact (Layer.readDeclaration_cases isTable (Layer.overlay_tidy tidy_settingsTree file) read).2
    name

theorem mem_names_iff_stored : name ∈ declaration.targets.names ↔ name ∈ storedKeys tables := by
  have stored : ((mergeEntries tables emptyTable).child? name).isSome ↔ name ∈ storedKeys tables :=
    (Layer.isSome_child?_mergeEntries tables emptyTable name).trans (or_iff_right nofun)
  rw [NameMap.mem_names, ← stored]
  rcases target_of_tables reads table alone quiet done name
    with ⟨absent, undeclared⟩ | ⟨node, target, found, _, declared⟩
  · rw [absent, undeclared]
    simp
  · rw [found, declared]
    simp

theorem target_of_distinct (distinct : (storedKeys tables).Nodup) (member : entry ∈ tables) :
    ∃ target, declaration.targets.get? (lowercase entry.1) = some target ∧
      readTarget (merge entry.2 none) = .ok target := by
  have own : (mergeEntries tables emptyTable).child? (lowercase entry.1) =
      some (merge entry.2 none) :=
    Layer.child?_mergeEntries_of_distinct distinct member emptyTable
  rcases target_of_tables reads table alone quiet done (lowercase entry.1)
    with ⟨absent, _⟩ | ⟨node, target, found, isRead, declared⟩
  · rw [own] at absent
    cases absent
  · rw [own] at found
    cases found
    exact ⟨target, declared, isRead⟩

theorem declaresEach_iff : declaration.DeclaresEach tables ↔ (storedKeys tables).Nodup := by
  have names {name : String} : name ∈ declaration.targets.names ↔ name ∈ storedKeys tables :=
    mem_names_iff_stored reads table alone quiet done
  have size : declaration.targets.size = tables.length ↔ (storedKeys tables).Nodup := by
    have counted := NameMap.size_eq_length_iff fun _ => names.mp
    rw [storedKeys, List.length_map] at counted
    exact counted.trans (and_iff_left fun _ => names.mpr)
  constructor
  · intro each
    exact size.mp each.count
  · intro distinct
    exact ⟨size.mpr distinct, fun entry => target_of_distinct reads table alone quiet done distinct⟩

end Tables

open Reconciler (Occasion) in
/-- After a pass as many targets are live as are declared just when each of them was live before or
can be dialled. -/
theorem count_of_usable {state : Reconciler PlacedSource Registry InitTask}
    (follows : Occasion.Follows path state) (occasion : Occasion)
    (triggers : occasion.notice.kind.triggersPass = true)
    (usable : checked (ofFile occasion.world path) = .ok declaration) :
    (occasion.handle state).2.registry.count = declaration.targets.size ↔
      ∀ name target, declaration.targets.get? name = some target →
        name ∈ state.registry.names ∨
          (target.resolve name declaration.settings).isDialable = true := by
  obtain ⟨_, _, live⟩ := Occasion.handle_of_usable follows occasion triggers usable
  have within : (occasion.handle state).2.registry.entries.names ⊆ declaration.targets.names := by
    intro name isLive
    obtain ⟨target, found, _⟩ := (live name).mp isLive
    exact NameMap.mem_names_of_get? found
  have counted := NameMap.size_eq_length_iff within
  rw [NameMap.length_names, and_iff_right declaration.targets.names_nodup] at counted
  refine counted.trans ?_
  constructor
  · intro all name target found
    obtain ⟨own, isOwn, reason⟩ := (live name).mp (all (NameMap.mem_names_of_get? found))
    rw [found] at isOwn
    cases isOwn
    exact reason
  · intro each name isName
    obtain ⟨target, found⟩ := Option.isSome_iff_exists.mp (NameMap.mem_names.mp isName)
    exact (live name).mpr ⟨target, found, each name target found⟩

open Reconciler (Occasion) in
/-- In a file of which only the table of the targets leads to them, the names declared are the keys
of its tables in lower case. Each table is one target, of its own values only, just when these keys
are all different. Then, if the declaration is valid, the source counts as many targets as there are
tables, and a pass leaves as many live when each was live before or can be dialled. -/
theorem tables_kept_apart_iff (reads : Layer.fileLayer world.files path = .ok file)
    (table : ("targets", .table origin tables) ∈ file) (alone : TargetsAlone file)
    (quiet : IsQuiet world.environment) (done : ofFile world path = .ok declaration) :
    (∀ name, name ∈ declaration.targets.names ↔ name ∈ storedKeys tables) ∧
    (declaration.DeclaresEach tables ↔ (storedKeys tables).Nodup) ∧
    ((storedKeys tables).Nodup → checked (ofFile world path) = .ok declaration →
      (∀ source : FileSource, source.path = some path →
        (source.read world).2.declaredCount = tables.length) ∧
      ∀ (initial : Declaration) (first : World) (dialing : Dialing) (earlier : List Occasion)
        (occasion : Occasion), occasion.world = world →
        occasion.notice.kind.triggersPass = true →
        let before := Occasion.handleAll earlier
          (Reconciler.start ⟨⟨some path, initial⟩, first⟩ (Registry.empty dialing))
        ((occasion.handle before).2.registry.count = tables.length ↔
          ∀ name target, declaration.targets.get? name = some target →
            name ∈ before.registry.names ∨
              (target.resolve name declaration.settings).isDialable = true)) := by
  have each := declaresEach_iff reads table alone quiet done
  refine ⟨fun _ => mem_names_iff_stored reads table alone quiet done, each, ?_⟩
  intro distinct usable
  have count : declaration.targets.size = tables.length := (each.mpr distinct).count
  refine ⟨?_, ?_⟩
  · intro source named
    rw [FileSource.read_of_usable named usable]
    exact count
  · intro initial first dialing earlier occasion same triggers before
    subst same
    have follows : Occasion.Follows path before := Occasion.handleAll_follows ⟨rfl, rfl⟩ earlier
    rw [← count]
    exact count_of_usable follows occasion triggers usable

/-- Two tables under keys that stay different. -/
def twoDevices : World := worldOf "[targets.R1]\n[targets.r2]\nusername = \"me\"\n" []

def twoTargets : Declaration := ⟨Settings.default,
  NameMap.ofList [("r1", Target.default), ("r2", { Target.default with username := some "me" })]⟩

def twoTables : List (String × Node) := [("R1", .table (some "c.toml") []),
  ("r2", .table (some "c.toml") [("username", .leaf (some "c.toml") (.text "me"))])]

theorem twoDevices_reads : Layer.fileLayer twoDevices.files "c.toml" =
    .ok [("targets", .table (some "c.toml") twoTables)] := by
  decide +kernel

theorem twoDevices_load : ofFile twoDevices "c.toml" = .ok twoTargets := by
  rw [ofFile_eq]
  decide +kernel

theorem twoTargets_dialable : ∀ entry ∈ twoTargets.targets.entries,
    (entry.2.resolve entry.1 twoTargets.settings).isDialable = true := by
  decide +kernel

/-- Both are counted, and managed after a first pass. -/
theorem two_tables_managed :
    let source : FileSource := ⟨some "c.toml", default⟩
    let start : Reconciler PlacedSource Registry InitTask :=
      Reconciler.start ⟨source, worldOf "" []⟩ (Registry.empty Dialing.default)
    let occasion : Reconciler.Occasion := ⟨⟨.write, "c.toml"⟩, twoDevices, []⟩
    twoTargets.targets.size = 2 ∧ (source.read twoDevices).2.declaredCount = 2 ∧
      (occasion.handle start).2.registry.count = 2 := by
  intro source start occasion
  have alone : TargetsAlone [("targets", .table (some "c.toml") twoTables)] :=
    List.forall_mem_singleton.mpr fun other => absurd rfl other
  have quiet : IsQuiet twoDevices.environment := show IsQuiet [] from nofun
  have distinct : (storedKeys twoTables).Nodup := by decide +kernel
  have valid : checked (ofFile twoDevices "c.toml") = .ok twoTargets := by
    rw [twoDevices_load]
    decide +kernel
  obtain ⟨_, each, counts⟩ := tables_kept_apart_iff twoDevices_reads List.mem_cons_self alone quiet
    twoDevices_load
  obtain ⟨counted, managed⟩ := counts distinct valid
  refine ⟨(each.mpr distinct).count, counted source rfl, ?_⟩
  apply (managed default (worldOf "" []) Dialing.default [] occasion rfl rfl).mpr
  intro name target declared
  exact .inr (twoTargets_dialable (name, target) (NameMap.mem_entries.mpr declared))

/-- Keys that differ in the case of their letters only: one target is left of two, with the address
of the one and the account of the other. -/
theorem tables_merged :
    ofFile (worldOf ("[targets.R1]\naddress = \"10.0.0.1:57400\"\n\n" ++
      "[targets.r1]\nusername = \"admin\"\n") []) "c.toml" =
        .ok ⟨Settings.default, NameMap.ofList [("r1",
          { Target.ofAddress "" "10.0.0.1:57400" with username := some "admin" })]⟩ := by
  rw [ofFile_eq]
  decide +kernel

end Declaration

end Telemetry
