import Telemetry.Proofs.Layer.TargetLeaves

/-!
A declaration as the lowest of several layers. Its tree has the settings at their place, and under
each plain name what the targets write whose names start with it: the target of that name alone,
where no other one's name does. Putting the layer on an empty tree changes nothing of this.
-/

namespace Telemetry.Layer

open KeyPath (parse)
open Text (lowercase)

variable {declaration : Declaration} {settings : Settings} {name key : String} {leaf : Leaf}
  {entries : List (String × Target)} {entry : String × Node} {place : List String} {tree : Node}

theorem lowercase_leadingName (lower : lowercase name = name) :
    lowercase (leadingName name) = leadingName name := by
  rw [Text.lowercase_eq_self_iff, leadingName, String.toList_ofList]
  exact fun c member =>
    Text.lowercase_eq_self_iff.mp lower c (List.takeWhile_subset _ member)

/-- The leaves of targets, one target after the other. -/
def targetsLeaves (entries : List (String × Target)) : List Leaf :=
  entries.flatMap fun entry => targetLeaves ("targets." ++ entry.1) entry.2

theorem settings_lead (member : entry ∈ (settingsLeaves "global" settings).filterMap entryOf?) :
    ∃ field, KeyPath.ofKey entry.1 = ["global", field].map .name := by
  obtain ⟨leaf, isLeaf, value, _, rfl⟩ := mem_entries_iff.mp member
  have isKey := List.mem_map_of_mem (f := (·.1)) isLeaf
  rw [keys_settingsLeaves] at isKey
  obtain ⟨field, isField, same⟩ := List.mem_map.mp isKey
  have leads := leads_field isSettled_global (isSettled_settingNames field isField)
  rw [pointedNames_nil, same] at leads
  exact ⟨field, leads⟩

theorem targets_lead (lower : ∀ own ∈ entries, lowercase own.1 = own.1)
    (writable : Writable (targetsLeaves entries))
    (member : entry ∈ (targetsLeaves entries).filterMap entryOf?) :
    ∃ own ∈ entries, IsPlain (leadingName own.1) ∧ ∃ more, KeyPath.ofKey entry.1 =
      ["targets", leadingName own.1].map .name ++ more := by
  obtain ⟨leaf, isLeaf, value, _, rfl⟩ := mem_entries_iff.mp member
  obtain ⟨own, isOwn, ofOwn⟩ := List.mem_flatMap.mp isLeaf
  obtain ⟨_, path, _, parsed⟩ := writable leaf isLeaf
  obtain ⟨more, rfl, plain⟩ := leads_targetLeaf (lower own isOwn) ofOwn parsed
  refine ⟨own, isOwn, plain, more, ?_⟩
  simp only [KeyPath.ofKey, parsed]
  rfl

theorem eq_of_leads {one other : String} {more rest : List PathStep}
    (same : ["targets", one].map .name ++ more = ["targets", other].map .name ++ rest) :
    one = other :=
  PathStep.name.inj (List.cons.inj (List.cons.inj same).2).1

/-- Every target writes something. -/
theorem exists_entry (writable : Writable (targetsLeaves entries)) {own : String × Target}
    (isOwn : own ∈ entries) (lower : lowercase own.1 = own.1) :
    ∃ entry ∈ (targetsLeaves entries).filterMap entryOf?, ∃ more,
      KeyPath.ofKey entry.1 = ["targets", leadingName own.1].map .name ++ more := by
  have first : textLeaf ("targets." ++ own.1 ++ ".name") own.2.name ∈
      targetLeaves ("targets." ++ own.1) own.2 := List.mem_append_left _ List.mem_cons_self
  have member : _ ∈ targetsLeaves entries := List.mem_flatMap.mpr ⟨own, isOwn, first⟩
  obtain ⟨value, path, isValue, parsed⟩ := writable _ member
  obtain ⟨more, rfl, _⟩ := leads_targetLeaf lower first parsed
  refine ⟨_, mem_entries_iff.mpr ⟨_, member, value, isValue, rfl⟩, more, ?_⟩
  simp only [KeyPath.ofKey, parsed]
  rfl

theorem silentAt_settings (settings : Settings) (place : List String) :
    SilentAt ((settingsLeaves "global" settings).filterMap entryOf?) ("targets" :: place) := by
  intro entry member
  obtain ⟨field, leads⟩ := settings_lead member
  rw [leads]
  exact misses_of_ne (isSettled_global "global" List.mem_cons_self |>.2 ▸ by decide) [] _ _ place

theorem silentAt_targets_global (lower : ∀ own ∈ entries, lowercase own.1 = own.1)
    (writable : Writable (targetsLeaves entries)) (place : List String) :
    SilentAt ((targetsLeaves entries).filterMap entryOf?) ("global" :: place) := by
  intro entry member
  obtain ⟨own, _, _, more, leads⟩ := targets_lead lower writable member
  rw [leads]
  exact misses_of_ne (isSettled_targets.2 ▸ by decide) [] _ _ place

theorem silentAt_targets (lower : ∀ own ∈ entries, lowercase own.1 = own.1)
    (writable : Writable (targetsLeaves entries))
    (others : ∀ own ∈ entries, leadingName own.1 ≠ name) (place : List String) :
    SilentAt ((targetsLeaves entries).filterMap entryOf?) ("targets" :: name :: place) := by
  intro entry member
  obtain ⟨own, isOwn, _, more, leads⟩ := targets_lead lower writable member
  rw [leads]
  refine misses_of_ne ?_ ["targets"] _ _ place
  rw [lowercase_leadingName (lower own isOwn)]
  exact others own isOwn

theorem writable_targets (writable : Writable (declarationLeaves declaration)) :
    Writable (targetsLeaves declaration.targets.entries) :=
  fun leaf member => writable leaf (List.mem_append_right _ member)

/-- The layer of a declaration. -/
def layerOf (declaration : Declaration) : Entries :=
  (declarationLeaves declaration).filterMap entryOf?

theorem layerOf_eq (declaration : Declaration) : layerOf declaration =
    (settingsLeaves "global" declaration.settings).filterMap entryOf? ++
      (targetsLeaves declaration.targets.entries).filterMap entryOf? :=
  List.filterMap_append

/-- Of names that are all different, one that no other starts with starts no other. -/
theorem others_of_alone {target : Target} {before after : List (String × Target)}
    (distinct : ((before ++ (name, target) :: after).map (·.1)).Nodup)
    (alone : ∀ own ∈ (before ++ (name, target) :: after).map (·.1),
      leadingName own = name → own = name) :
    ∀ own ∈ before ++ after, leadingName own.1 ≠ name := by
  intro own member same
  have middle : ((before ++ (name, target) :: after).map (·.1)).Perm
      (name :: (before ++ after).map (·.1)) := List.perm_middle.map _
  have isName : own.1 ∈ (before ++ after).map (·.1) := List.mem_map_of_mem member
  have whole := alone own.1 (middle.mem_iff.mpr (List.mem_cons_of_mem _ isName)) same
  exact (List.nodup_cons.mp (middle.nodup_iff.mp distinct)).1 (whole ▸ isName)

section Places

variable (lower : ∀ own ∈ declaration.targets.names, lowercase own = own)
  (writable : Writable (declarationLeaves declaration))

include lower

theorem lower_entries : ∀ own ∈ declaration.targets.entries, lowercase own.1 = own.1 :=
  fun own member => lower own.1 (List.mem_map_of_mem member)

include writable

theorem format_stands_layer :
    ∃ node, (overlay Node.emptyTable (layerOf declaration)).at? ["global", "format"] = some node := by
  rw [layerOf_eq, overlay_append, at?_overlay_of_silentAt
    (silentAt_targets_global (lower_entries lower) (writable_targets writable) ["format"])]
  exact format_stands (fun leaf member => writable leaf (List.mem_append_left _ member)) _

/-- Settings stand where they are written. -/
theorem settings_takenFrom_layer :
    declaration.settings.TakenFrom fun name =>
      (overlay Node.emptyTable (layerOf declaration)).at? ["global", name] := by
  have taken := settings_takenFrom_leaves
    (fun leaf member => writable leaf (List.mem_append_left _ member)) Node.emptyTable
  simp only [layerOf_eq, overlay_append, at?_overlay_of_silentAt
    (silentAt_targets_global (lower_entries lower) (writable_targets writable) _)]
  exact taken

/-- Something stands under the plain names that the targets' names start with, and no others. -/
theorem isSome_at?_layer (name : String) :
    ((overlay Node.emptyTable (layerOf declaration)).at? ["targets", name]).isSome ↔
      ∃ own ∈ declaration.targets.names, leadingName own = name := by
  have targets := writable_targets writable
  have entriesLower := lower_entries lower
  have leads : ∀ entry ∈ (targetsLeaves declaration.targets.entries).filterMap entryOf?,
      ∃ own ∈ declaration.targets.entries, ∃ more,
        KeyPath.ofKey entry.1 = ["targets", leadingName own.1].map .name ++ more := by
    intro entry member
    obtain ⟨own, isOwn, _, more, leads⟩ := targets_lead entriesLower targets member
    exact ⟨own, isOwn, more, leads⟩
  have placeLower : ∀ own ∈ declaration.targets.entries,
      ∀ step ∈ ["targets", leadingName own.1], lowercase step = step :=
    fun own isOwn => List.forall_mem_cons.mpr ⟨isSettled_targets.2,
      List.forall_mem_singleton.mpr (lowercase_leadingName (entriesLower own isOwn))⟩
  rw [layerOf_eq, overlay_append, isSome_at?_overlay]
  · rw [at?_overlay_of_silentAt (silentAt_settings _ _)]
    constructor
    · rintro (nothing | ⟨entry, member, more, below⟩)
      · cases nothing
      · obtain ⟨own, isOwn, _, leads⟩ := leads entry member
        exact ⟨own.1, List.mem_map_of_mem isOwn, eq_of_leads (leads.symm.trans below)⟩
    · rintro ⟨ownName, isName, rfl⟩
      obtain ⟨own, isOwn, rfl⟩ := List.mem_map.mp isName
      exact .inr (exists_entry targets isOwn (entriesLower own isOwn))
  · intro entry member more below
    obtain ⟨own, isOwn, _, leads⟩ := leads entry member
    obtain rfl := eq_of_leads (leads.symm.trans below)
    exact placeLower own isOwn
  · intro entry member
    obtain ⟨own, isOwn, more, leads⟩ := leads entry member
    rw [leads]
    by_cases same : leadingName own.1 = name
    · exact .inr ⟨more, by rw [same]⟩
    · refine .inl (misses_of_ne ?_ ["targets"] _ _ [])
      rwa [lowercase_leadingName (entriesLower own isOwn)]

theorem isPlain_leadingName {own : String} (isName : own ∈ declaration.targets.names) :
    IsPlain (leadingName own) := by
  obtain ⟨entry, isEntry, rfl⟩ := List.mem_map.mp isName
  have first : textLeaf ("targets." ++ entry.1 ++ ".name") entry.2.name ∈
      targetLeaves ("targets." ++ entry.1) entry.2 := List.mem_append_left _ List.mem_cons_self
  obtain ⟨_, _, _, parsed⟩ :=
    writable_targets writable _ (List.mem_flatMap.mpr ⟨entry, isEntry, first⟩)
  obtain ⟨_, _, plain⟩ := leads_targetLeaf (lower_entries lower entry isEntry) first parsed
  exact plain

/-- A target of a plain name stands where it is written, unless another one's name starts so. -/
theorem target_takenFrom_layer {target : Target}
    (declared : declaration.targets.get? name = some target) (plain : IsPlain name)
    (alone : ∀ own ∈ declaration.targets.names, leadingName own = name → own = name) :
    let written := overlay Node.emptyTable (layerOf declaration)
    (∃ node, written.at? ["targets", name, "name"] = some node) ∧
      (target.TakenFrom fun part => written.at? ["targets", name, part]) ∧
      Takes (readList readText) (written.at? ["targets", name, "subscriptions"]) []
        target.subscriptions := by
  have targets := writable_targets writable
  have entriesLower := lower_entries lower
  have settled : IsSettled name := ⟨plain, lower name (NameMap.mem_names_of_get? declared)⟩
  have distinct := declaration.targets.names_nodup
  rw [NameMap.names] at distinct alone
  rw [layerOf_eq]
  -- its own leaves stand between those of the others, and none of these comes near its place
  obtain ⟨before, after, entries⟩ := List.append_of_mem (NameMap.mem_entries.mpr declared)
  rw [entries] at targets entriesLower distinct alone ⊢
  have others := others_of_alone distinct alone
  have leaves : targetsLeaves (before ++ (name, target) :: after) = targetsLeaves before ++
      (targetLeaves ("targets." ++ name) target ++ targetsLeaves after) := by
    rw [targetsLeaves, List.flatMap_append, List.flatMap_cons]
    rfl
  rw [leaves] at targets ⊢
  simp only [List.filterMap_append, overlay_append]
  have beforeSilent := silentAt_targets (fun own member => entriesLower own (by simp [member]))
    (fun leaf member => targets leaf (by simp [member]))
    (fun own member => others own (List.mem_append_left _ member)) []
  have afterSilent := silentAt_targets (fun own member => entriesLower own (by simp [member]))
    (fun leaf member => targets leaf (by simp [member]))
    fun own member => others own (List.mem_append_right _ member)
  have nothing : (overlay (overlay Node.emptyTable
      ((settingsLeaves "global" declaration.settings).filterMap entryOf?))
        ((targetsLeaves before).filterMap entryOf?)).at? ["targets", name] = none := by
    rw [at?_overlay_of_silentAt beforeSilent, at?_overlay_of_silentAt (silentAt_settings _ _)]
    rfl
  have own : Writable (targetLeaves ("targets." ++ name) target) :=
    fun leaf member => targets leaf (by simp [member])
  obtain ⟨stands, taken, list⟩ := target_takenFrom_leaves settled own nothing
  refine ⟨?_, taken.congr fun part _ => ?_, ?_⟩
  · rw [at?_overlay_of_silentAt (afterSilent ["name"])]
    exact stands
  · rw [at?_overlay_of_silentAt (afterSilent [part])]
  · rw [at?_overlay_of_silentAt (afterSilent ["subscriptions"])]
    exact list

end Places

section Neat

/-- A tree that is the same when it is put on an empty place. -/
inductive Node.Neat : Node → Prop where
  | leaf (origin : Option String) (value : Scalar) : Neat (.leaf origin value)
  | list (origin : Option String) (items : List Node) : Neat (.list origin items)
  | table {entries : List (String × Node)} (ascending : Ascending entries)
      (settled : ∀ entry ∈ entries, IsSettled entry.1) (each : ∀ entry ∈ entries, Neat entry.2) :
      Neat (.table none entries)

theorem mergeEntries_append (before : List (String × Node)) {entries : List (String × Node)}
    (ascending : Ascending (before ++ entries))
    (lower : ∀ entry ∈ entries, lowercase entry.1 = entry.1)
    (each : ∀ entry ∈ entries, merge entry.2 none = entry.2) :
    mergeEntries entries (.table none before) = .table none (before ++ entries) := by
  induction entries generalizing before with
  | nil => rw [mergeEntries, List.append_nil]
  | cons entry rest ih =>
      obtain ⟨key, value⟩ := entry
      have below : ∀ entry ∈ before, entry.1 < key := fun entry member =>
        (List.pairwise_append.mp ascending).2.2 entry member _ List.mem_cons_self
      have absent : (Node.table none before).child? key = none := by
        rw [Node.child?, ← Option.not_isSome_iff_eq_none, findEntry_isSome]
        intro present
        obtain ⟨entry, member, same⟩ := List.mem_map.mp present
        exact String.lt_irrefl key (same ▸ below entry member)
      have split : before ++ (key, value) :: rest = (before ++ [(key, value)]) ++ rest := by simp
      rw [mergeEntries, lower _ List.mem_cons_self, absent, each _ List.mem_cons_self, Node.put,
        insertEntry_last below, split]
      exact ih _ (split ▸ ascending) (fun entry member => lower entry (List.mem_cons_of_mem _ member))
        fun entry member => each entry (List.mem_cons_of_mem _ member)

theorem merge_neat {node : Node} (neat : node.Neat) : merge node none = node := by
  induction neat with
  | leaf => rfl
  | list => rfl
  | table ascending settled _ ih =>
      rw [merge]
      exact mergeEntries_append [] ascending
        (fun entry member => (settled entry member).2) ih

theorem Node.Neat.put {node value : Node} (neat : node.Neat) (settled : IsSettled key)
    (valueNeat : value.Neat) : (node.put key value).Neat := by
  have alone : Neat (.table none [(key, value)]) :=
    .table (List.pairwise_singleton _ _) (List.forall_mem_singleton.mpr settled)
      (List.forall_mem_singleton.mpr valueNeat)
  cases neat with
  | leaf => exact alone
  | list => exact alone
  | table ascending settledKeys each =>
      refine .table (insertEntry_ascending ascending) ?_ ?_
      · intro entry member
        rcases mem_insertEntry member with rfl | member
        · exact settled
        · exact settledKeys entry member
      · intro entry member
        rcases mem_insertEntry member with rfl | member
        · exact valueNeat
        · exact each entry member

theorem neat_emptyTable : Node.emptyTable.Neat := .table List.Pairwise.nil nofun nofun

theorem opened_neat {existing : Option Node} (neat : ∀ node, existing = some node → node.Neat) :
    (opened existing).Neat := by
  rcases existing with _ | _ | _ | _
  · exact neat_emptyTable
  · exact neat_emptyTable
  · exact neat_emptyTable
  · exact neat _ rfl

theorem Node.Neat.child {node child : Node} (neat : node.Neat)
    (found : node.child? key = some child) :
    child.Neat := by
  cases neat with
  | leaf => cases found
  | list => cases found
  | table ascending settled each => exact each _ (mem_of_findEntry found)

theorem setAt_neat {path : List PathStep} (settled : ∀ step, .name step ∈ path → IsSettled step)
    (origin : Option String) (value : Scalar) {existing : Option Node}
    (neat : ∀ node, existing = some node → node.Neat) :
    (setAt path (.leaf origin value) existing).Neat := by
  induction path generalizing existing with
  | nil => exact .leaf origin value
  | cons step path ih =>
      cases step with
      | index position =>
          obtain ⟨origin, items, same⟩ := isList_setAt_index position path _ existing
          rw [same]
          exact .list origin items
      | name key =>
          have own := settled key List.mem_cons_self
          rw [setAt_name, own.2]
          have table := opened_neat neat
          exact table.put own (ih (fun step member => settled step (List.mem_cons_of_mem _ member))
            fun child found => table.child found)

theorem isSettled_of_parse {path : List PathStep} (lower : lowercase key = key)
    (parsed : parse key = .ok path) : ∀ step, .name step ∈ path → IsSettled step := by
  obtain ⟨first, rest, more, plain, _, whole, rfl, spells⟩ := KeyPath.spells_of_parse parsed
  have chars := Text.lowercase_eq_self_iff.mp lower
  intro step member
  rcases List.mem_cons.mp member with same | member
  · cases same
    refine ⟨plain, Text.lowercase_eq_self_iff.mpr fun c member => chars c ?_⟩
    rw [whole]
    exact List.mem_append_left _ member
  · obtain ⟨own, within⟩ := spells.names member
    refine ⟨own, Text.lowercase_eq_self_iff.mpr fun c member => chars c ?_⟩
    rw [whole]
    exact List.mem_append_right _ (within c member)

theorem lowercase_leaf (lower : ∀ own ∈ declaration.targets.names, lowercase own = own)
    (member : leaf ∈ declarationLeaves declaration) : lowercase leaf.1 = leaf.1 := by
  rcases List.mem_append.mp member with member | member
  · have isKey := List.mem_map_of_mem (f := (·.1)) member
    rw [keys_settingsLeaves] at isKey
    obtain ⟨field, isField, same⟩ := List.mem_map.mp isKey
    have each : ∀ step ∈ ["global", field], lowercase step = step := List.forall_mem_cons.mpr
      ⟨(isSettled_global "global" List.mem_cons_self).2,
        List.forall_mem_singleton.mpr (isSettled_settingNames field isField).2⟩
    have key := pointedNames_append "global" [] field
    rw [pointedNames_nil] at key
    rw [← same, key]
    exact lowercase_pointedNames each
  · obtain ⟨own, isOwn, ofOwn⟩ := List.mem_flatMap.mp member
    exact lowercase_targetLeaf (lower_entries lower own isOwn) ofOwn

theorem overlay_neat {leaves : List Leaf} (lower : ∀ leaf ∈ leaves, lowercase leaf.1 = leaf.1)
    (writable : Writable leaves) (neat : tree.Neat) :
    (overlay tree (leaves.filterMap entryOf?)).Neat := by
  induction leaves generalizing tree with
  | nil => exact neat
  | cons leaf rest ih =>
      obtain ⟨value, path, isValue, parsed⟩ := writable leaf List.mem_cons_self
      have own : entryOf? leaf = some (lowercase leaf.1, .leaf none value) := by
        rw [entryOf?, isValue]
        rfl
      have leads : KeyPath.ofKey (lowercase leaf.1) = path := by rw [KeyPath.ofKey, parsed]
      have keyLower := lower leaf List.mem_cons_self
      rw [List.filterMap_cons_some own, overlay_cons, leads]
      refine ih (fun leaf member => lower leaf (List.mem_cons_of_mem _ member))
        (fun leaf member => writable leaf (List.mem_cons_of_mem _ member))
        (setAt_neat (isSettled_of_parse ?_ parsed) none value fun node same =>
          Option.some.inj same ▸ neat)
      rw [keyLower, keyLower]

/-- The tree of a declaration's layer alone is the one that its leaves make. -/
theorem gather_base {layer : Entries}
    (lower : ∀ own ∈ declaration.targets.names, lowercase own = own)
    (made : base declaration = .ok layer) :
    gather [layer] = overlay Node.emptyTable (layerOf declaration) ∧
      Writable (declarationLeaves declaration) := by
  cases built : baseTree declaration with
  | error reason => rw [base, built] at made; cases made
  | ok tree =>
      obtain ⟨same, writable⟩ := overlay_of_writeLeaf built
      have neat := overlay_neat (fun leaf => lowercase_leaf lower) writable neat_emptyTable
      refine ⟨?_, writable⟩
      obtain ⟨origin, entries, isTable⟩ :=
        isTable_overlay isTable_emptyTable (layerOf declaration)
      rw [layerOf] at isTable
      rw [base, built, same, isTable] at made
      cases made
      rw [isTable] at neat
      rw [layerOf, isTable]
      cases neat with
      | table ascending settled each =>
          rw [gather, List.foldl_cons, List.foldl_nil, Node.emptyTable,
            overlay_eq_mergeEntries settled]
          exact mergeEntries_append [] ascending
            (fun entry member => (settled entry member).2)
            fun entry member => merge_neat (each entry member)

end Neat

end Telemetry.Layer
