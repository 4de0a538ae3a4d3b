import Telemetry.Layer.File
import Telemetry.Proofs.Layer.Written
import Telemetry.Proofs.Toml.Distinct

/-!
What the layer of a file does to single values. A file of two tables of plain records gives the
values that it has and leaves the others as they are.
-/

namespace Telemetry.Layer

open Text (lowercase)

variable {tree node : Node} {name origin : String} {file : Entries} {entries : List (String × Node)}

section Files

theorem ofTomlEntries_eq_map (origin : String) (entries : List (String × Toml.Value)) :
    ofTomlEntries origin entries = entries.map fun entry => (entry.1, ofToml origin entry.2) := by
  induction entries with
  | nil => rw [ofTomlEntries, List.map_nil]
  | cons entry rest ih =>
      obtain ⟨key, value⟩ := entry
      rw [ofTomlEntries, ih, List.map_cons]

theorem tidy_ofTomlEntries {entries : List (String × Toml.Value)} (ascending : Ascending entries)
    (each : ∀ entry ∈ entries, (ofToml origin entry.2).Tidy) (from? : Option String) :
    (Node.table from? (ofTomlEntries origin entries)).Tidy := by
  rw [ofTomlEntries_eq_map]
  refine .table from? (List.pairwise_map.mpr ascending) fun entry member => ?_
  obtain ⟨before, isBefore, rfl⟩ := List.mem_map.mp member
  exact each before isBefore

theorem tidy_ofToml {value : Toml.Value} (tidy : value.Tidy) : (ofToml origin value).Tidy := by
  induction tidy with
  | string => rw [ofToml]; exact .leaf _ _
  | integer => rw [ofToml]; exact .leaf _ _
  | double => rw [ofToml]; exact .leaf _ _
  | bool => rw [ofToml]; exact .leaf _ _
  | dateTime => rw [ofToml]; exact .leaf _ _
  | array => rw [ofToml]; exact .list _ _
  | table ascending _ ih => rw [ofToml]; exact tidy_ofTomlEntries ascending ih _

/-- The layer of a file has no key twice. -/
theorem tidy_fileLayer {files : Files.Tree} {path : String}
    (reads : fileLayer files path = .ok file) : (Node.table none file).Tidy := by
  unfold fileLayer at reads
  split at reads
  · cases reads
  · split at reads
    · cases reads
    · rename_i found _ bytes _
      unfold ofBytes at reads
      split at reads
      · cases reads
      · split at reads
        · cases reads
        · rename_i document parsed
          cases reads
          obtain ⟨ascending, each⟩ := Toml.parse_tidy parsed
          exact tidy_ofTomlEntries ascending (fun entry member => tidy_ofToml (each entry member)) _

end Files

section Records

namespace Node

/-- Anything but a table. -/
def IsFlat : Node → Prop
  | .table _ _ => False
  | _ => True

instance : (node : Node) → Decidable node.IsFlat
  | .leaf _ _ => isTrue trivial
  | .list _ _ => isTrue trivial
  | .table _ _ => isFalse id

/-- A table of values that are no tables, under keys in lower case. -/
def IsRecord : Node → Prop
  | .table _ entries => ∀ entry ∈ entries, lowercase entry.1 = entry.1 ∧ entry.2.IsFlat
  | _ => False

instance : (node : Node) → Decidable node.IsRecord
  | .leaf _ _ => isFalse id
  | .list _ _ => isFalse id
  | .table _ entries => inferInstanceAs
      (Decidable (∀ entry ∈ entries, lowercase entry.1 = entry.1 ∧ entry.2.IsFlat))

/-- A table of records, under keys in lower case. -/
def IsRecords : Node → Prop
  | .table _ entries => ∀ entry ∈ entries, lowercase entry.1 = entry.1 ∧ entry.2.IsRecord
  | _ => False

instance : (node : Node) → Decidable node.IsRecords
  | .leaf _ _ => isFalse id
  | .list _ _ => isFalse id
  | .table _ entries => inferInstanceAs
      (Decidable (∀ entry ∈ entries, lowercase entry.1 = entry.1 ∧ entry.2.IsRecord))

end Node

/-- A record of settings and records of targets, and nothing else. -/
def IsPlainFile (file : Entries) : Prop :=
  ∀ entry ∈ file,
    entry.1 = "global" ∧ entry.2.IsRecord ∨ entry.1 = "targets" ∧ entry.2.IsRecords

instance (file : Entries) : Decidable (IsPlainFile file) :=
  inferInstanceAs (Decidable (∀ entry ∈ file, _))

theorem child?_mergeEntries_of_lower (ascending : Ascending entries)
    (lower : ∀ entry ∈ entries, lowercase entry.1 = entry.1) (target : Node) (name : String) :
    (mergeEntries entries target).child? name =
      match findEntry name entries with
      | none => target.child? name
      | some node => some (merge node (target.child? name)) := by
  induction entries generalizing target with
  | nil => rw [mergeEntries]; rfl
  | cons entry rest ih =>
      obtain ⟨key, value⟩ := entry
      obtain ⟨below, restAscending⟩ := List.pairwise_cons.mp ascending
      have restLower := fun entry member => lower entry (List.mem_cons_of_mem _ member)
      rw [mergeEntries, lower _ List.mem_cons_self, ih restAscending restLower, findEntry_cons,
        Node.child?_put]
      by_cases same : name = key
      · subst same
        rw [findEntry_eq_none below, if_pos rfl, if_pos rfl]
      · rw [if_neg same, if_neg same]

theorem merge_flat (flat : node.IsFlat) (existing : Option Node) : merge node existing = node := by
  cases node with
  | leaf => rfl
  | list => rfl
  | table => exact flat.elim

theorem at?_merge_of_none {from? : Option String} (tidy : (Node.table from? entries).Tidy)
    (lower : ∀ entry ∈ entries, lowercase entry.1 = entry.1)
    (absent : (Node.table from? entries).child? name = none) (existing : Option Node)
    (place : List String) :
    (merge (.table from? entries) existing).at? (name :: place) =
      existing.bind (·.at? (name :: place)) := by
  rw [Node.child?] at absent
  rw [Node.at?_cons, merge, child?_mergeEntries_of_lower tidy.ascending lower, absent,
    child?_getD]
  cases existing <;> rfl

theorem at?_merge_of_some {from? : Option String} (tidy : (Node.table from? entries).Tidy)
    (lower : ∀ entry ∈ entries, lowercase entry.1 = entry.1)
    (found : (Node.table from? entries).child? name = some node) (existing : Option Node)
    (place : List String) :
    (merge (.table from? entries) existing).at? (name :: place) =
      (merge node (existing.bind (·.child? name))).at? place := by
  rw [Node.child?] at found
  rw [Node.at?_cons, merge, child?_mergeEntries_of_lower tidy.ascending lower, found,
    child?_getD]
  rfl

/-- A record gives the values that it has. -/
theorem at?_merge_record (record : node.IsRecord) (tidy : node.Tidy) (existing : Option Node)
    (field : String) :
    (merge node existing).at? [field] =
      (node.at? [field]).or (existing.bind (·.at? [field])) := by
  cases node with
  | leaf => exact record.elim
  | list => exact record.elim
  | table from? entries =>
      have lower : ∀ entry ∈ entries, lowercase entry.1 = entry.1 :=
        fun entry member => (record entry member).1
      rw [Node.at?_singleton (.table from? entries)]
      cases found : (Node.table from? entries).child? field with
      | none => rw [at?_merge_of_none tidy lower found, Option.none_or]
      | some value =>
          have flat := (record _ (mem_of_findEntry found)).2
          rw [at?_merge_of_some tidy lower found, merge_flat flat, Option.some_or]
          rfl

/-- Records give the values that they have, and stand there even where they have none. -/
theorem at?_merge_records (records : node.IsRecords) (tidy : node.Tidy) (existing : Option Node)
    (name : String) :
    (((merge node existing).at? [name]).isSome ↔
      (node.at? [name]).isSome ∨ (existing.bind (·.at? [name])).isSome) ∧
    ∀ field, (merge node existing).at? [name, field] =
      (node.at? [name, field]).or (existing.bind (·.at? [name, field])) := by
  cases node with
  | leaf => exact records.elim
  | list => exact records.elim
  | table from? entries =>
      have lower : ∀ entry ∈ entries, lowercase entry.1 = entry.1 :=
        fun entry member => (records entry member).1
      cases found : (Node.table from? entries).child? name with
      | none =>
          simp only [at?_merge_of_none tidy lower found, Node.at?_cons (.table from? entries), found,
            Option.bind_none, Option.none_or, Option.isSome_none, Bool.false_eq_true, false_or,
            implies_true, and_self]
      | some record =>
          have isRecord := (records _ (mem_of_findEntry found)).2
          simp only [at?_merge_of_some tidy lower found, Node.at?_cons (.table from? entries), found,
            Option.bind_some, at?_merge_record isRecord (tidy.child found), Node.at?_nil,
            Option.isSome_some, true_or, true_and]
          intro field
          cases existing <;> rfl

theorem IsPlainFile.settled (plain : IsPlainFile file) : ∀ entry ∈ file, IsSettled entry.1 := by
  intro entry member
  rcases plain entry member with ⟨same, _⟩ | ⟨same, _⟩
  · exact same ▸ isSettled_global "global" List.mem_cons_self
  · exact same ▸ isSettled_targets

theorem IsPlainFile.lower (plain : IsPlainFile file) :
    ∀ entry ∈ file, lowercase entry.1 = entry.1 :=
  fun entry member => (plain.settled entry member).2

theorem IsPlainFile.overlay (plain : IsPlainFile file)
    (isTable : ∃ origin entries, tree = .table origin entries) :
    overlay tree file = merge (.table none file) (some tree) := by
  obtain ⟨origin, entries, rfl⟩ := isTable
  rw [overlay_eq_mergeEntries plain.settled, merge]
  rfl

theorem IsPlainFile.record (plain : IsPlainFile file)
    (found : (Node.table none file).child? "global" = some node) : node.IsRecord :=
  ((plain _ (mem_of_findEntry found)).resolve_right fun other =>
    absurd (show "global" = "targets" from other.1) (by decide)).2

theorem IsPlainFile.records (plain : IsPlainFile file)
    (found : (Node.table none file).child? "targets" = some node) : node.IsRecords :=
  ((plain _ (mem_of_findEntry found)).resolve_left fun other =>
    absurd (show "targets" = "global" from other.1) (by decide)).2

/-- A plain file gives the values and the targets that it has. -/
theorem at?_overlay_file (plain : IsPlainFile file) (tidy : (Node.table none file).Tidy)
    (isTable : ∃ origin entries, tree = .table origin entries) :
    (∀ field, (overlay tree file).at? ["global", field] =
      ((Node.table none file).at? ["global", field]).or (tree.at? ["global", field])) ∧
    ∀ name,
      (((overlay tree file).at? ["targets", name]).isSome ↔
        ((Node.table none file).at? ["targets", name]).isSome ∨
          (tree.at? ["targets", name]).isSome) ∧
      ∀ part, (overlay tree file).at? ["targets", name, part] =
        ((Node.table none file).at? ["targets", name, part]).or
          (tree.at? ["targets", name, part]) := by
  have lower := plain.lower
  rw [plain.overlay isTable]
  constructor
  · intro field
    cases found : (Node.table none file).child? "global" with
    | none =>
        rw [at?_merge_of_none tidy lower found, Node.at?_cons (.table none file), found]
        rfl
    | some record =>
        rw [at?_merge_of_some tidy lower found,
          at?_merge_record (plain.record found) (tidy.child found),
          Node.at?_cons (.table none file), found, Option.bind_some, Node.at?_cons tree]
        cases tree.child? "global" <;> rfl
  · intro name
    cases found : (Node.table none file).child? "targets" with
    | none =>
        simp only [at?_merge_of_none tidy lower found, Node.at?_cons (.table none file), found]
        simp
    | some records =>
        have both := at?_merge_records (plain.records found) (tidy.child found)
          (tree.child? "targets") name
        simp only [at?_merge_of_some tidy lower found, Node.at?_cons (.table none file), found]
        exact both

theorem isTable_mergeEntries (entries : List (String × Node)) (from? : Option String)
    (existing : List (String × Node)) :
    ∃ result, mergeEntries entries (.table from? existing) = .table from? result := by
  induction entries generalizing existing with
  | nil => exact ⟨existing, by rw [mergeEntries]⟩
  | cons entry rest ih =>
      obtain ⟨key, value⟩ := entry
      rw [mergeEntries]
      exact ih _

theorem isTable_merge_record (record : node.IsRecord) :
    ∃ origin entries, merge node none = .table origin entries := by
  cases node with
  | leaf => exact record.elim
  | list => exact record.elim
  | table from? entries =>
      rw [merge]
      obtain ⟨result, same⟩ := isTable_mergeEntries entries none []
      exact ⟨none, result, same⟩

/-- A plain file puts no list in the place of a target. -/
theorem ne_list_overlay_file (plain : IsPlainFile file) (tidy : (Node.table none file).Tidy)
    (isTable : ∃ origin entries, tree = .table origin entries)
    (nothing : tree.at? ["targets", name] = none) (origin : Option String) (items : List Node) :
    (overlay tree file).at? ["targets", name] ≠ some (.list origin items) := by
  have below : (tree.child? "targets").bind (·.child? name) = none := by
    simpa only [Node.at?_cons, Node.at?_nil, Option.bind_fun_some] using nothing
  rw [plain.overlay isTable]
  cases found : (Node.table none file).child? "targets" with
  | none =>
      rw [at?_merge_of_none tidy plain.lower found, Option.bind_some, nothing]
      exact nofun
  | some records =>
      have areRecords := plain.records found
      have recordsTidy := tidy.child found
      rw [at?_merge_of_some tidy plain.lower found]
      cases records with
      | leaf => exact areRecords.elim
      | list => exact areRecords.elim
      | table from? entries =>
          have lower : ∀ entry ∈ entries, lowercase entry.1 = entry.1 :=
            fun entry member => (areRecords entry member).1
          cases own : (Node.table from? entries).child? name with
          | none =>
              simp only [at?_merge_of_none recordsTidy lower own, Node.at?_singleton]
              rw [Option.bind_some, below]
              exact nofun
          | some record =>
              rw [at?_merge_of_some recordsTidy lower own, Option.bind_some, below]
              obtain ⟨from?, result, isRecord⟩ :=
                isTable_merge_record (areRecords _ (mem_of_findEntry own)).2
              rw [isRecord]
              exact nofun

end Records

end Telemetry.Layer
