import Mathlib.Data.List.Induction
import Telemetry.Layer.KeyPath
import Telemetry.Proofs.NameMap

/-!
Places in a tree of settings: names that lead from the top through tables. What is written at a path
of names is found at their place, and what is written elsewhere leaves the place as it was.
-/

namespace Telemetry.Layer

open Text (lowercase)

variable {tree node : Node} {existing : Option Node} {key name : String} {path : List PathStep}
  {place : List String} {layer : Entries}

namespace Node

/-- What stands at a place. -/
def at? (node : Node) : List String → Option Node
  | [] => some node
  | name :: place => (node.child? name).bind (·.at? place)

theorem at?_nil (node : Node) : node.at? [] = some node := rfl

theorem at?_cons (node : Node) (name : String) (place : List String) :
    node.at? (name :: place) = (node.child? name).bind (·.at? place) := rfl

theorem at?_singleton (node : Node) (name : String) : node.at? [name] = node.child? name :=
  Option.bind_fun_some _

theorem at?_table (origin : Option String) (entries : List (String × Node)) (name : String) :
    (table origin entries).at? [name] = findEntry name entries := Option.bind_fun_some _

theorem at?_append (node : Node) (place more : List String) :
    node.at? (place ++ more) = (node.at? place).bind (·.at? more) := by
  induction place generalizing node with
  | nil => rfl
  | cons name place ih =>
      rw [List.cons_append, at?_cons, at?_cons]
      cases node.child? name with
      | none => rfl
      | some child => exact ih child

/-- Below a list stands nothing. -/
theorem ne_list_of_below (place : List String) {more : List String}
    (found : tree.at? (place ++ name :: more) = some node) (origin : Option String)
    (items : List Node) : tree.at? place ≠ some (.list origin items) := by
  intro isList
  rw [at?_append, isList] at found
  cases found

theorem isSome_of_below (place : List String) {more : List String}
    (isSome : (tree.at? (place ++ more)).isSome) : (tree.at? place).isSome := by
  rw [at?_append] at isSome
  cases found : tree.at? place with
  | none => rw [found] at isSome; cases isSome
  | some node => rfl

theorem child?_put (node : Node) (key other : String) (value : Node) :
    (node.put key value).child? other = if other = key then some value else node.child? other := by
  cases node with
  | table origin entries => exact findEntry_insertEntry key other value entries
  | leaf origin scalar => exact findEntry_cons other (key, value) []
  | list origin items => exact findEntry_cons other (key, value) []

/-- No table below has a name twice. -/
inductive Tidy : Node → Prop where
  | leaf (origin : Option String) (value : Scalar) : Tidy (.leaf origin value)
  | list (origin : Option String) (items : List Node) : Tidy (.list origin items)
  | table (origin : Option String) {entries : List (String × Node)} (ascending : Ascending entries)
      (each : ∀ entry ∈ entries, Tidy entry.2) : Tidy (.table origin entries)

theorem tidy_emptyTable : emptyTable.Tidy := .table none List.Pairwise.nil nofun

theorem Tidy.ascending {origin : Option String} {entries : List (String × Node)}
    (tidy : (Node.table origin entries).Tidy) : Ascending entries := by
  cases tidy with
  | table _ ascending _ => exact ascending

theorem Tidy.child (tidy : tree.Tidy) (found : tree.child? name = some node) : node.Tidy := by
  cases tidy with
  | leaf => cases found
  | list => cases found
  | table origin ascending each => exact each _ (mem_of_findEntry found)

theorem Tidy.at (tidy : tree.Tidy) (found : tree.at? place = some node) : node.Tidy := by
  induction place generalizing tree with
  | nil => cases found; exact tidy
  | cons name place ih =>
      obtain ⟨child, isChild, below⟩ := Option.bind_eq_some_iff.mp found
      exact ih (tidy.child isChild) below

theorem Tidy.put (tidy : tree.Tidy) (key : String) (value : node.Tidy) :
    (tree.put key node).Tidy := by
  have alone : Tidy (.table none [(key, node)]) :=
    .table none (List.pairwise_singleton _ _) fun entry member => by
      obtain rfl := List.mem_singleton.mp member
      exact value
  cases tidy with
  | leaf => exact alone
  | list => exact alone
  | table origin ascending each =>
      refine .table origin (insertEntry_ascending ascending) ?_
      intro entry member
      rcases mem_insertEntry member with rfl | member
      · exact value
      · exact each entry member

/-- A tree that says nothing about a place: it neither leads there nor stands in the way. -/
def SilentAt (node : Node) : List String → Prop
  | [] => False
  | name :: place =>
      match node with
      | .table _ entries => ∀ entry ∈ entries, lowercase entry.1 = name → entry.2.SilentAt place
      | _ => False

instance decidableSilentAt : (node : Node) → (place : List String) → Decidable (node.SilentAt place)
  | _, [] => isFalse id
  | .leaf _ _, _ :: _ => isFalse id
  | .list _ _, _ :: _ => isFalse id
  | .table _ entries, name :: place =>
      have : ∀ node : Node, Decidable (node.SilentAt place) := (decidableSilentAt · place)
      inferInstanceAs
        (Decidable (∀ entry ∈ entries, lowercase entry.1 = name → entry.2.SilentAt place))

end Node

/-- A tree that is written at a path says nothing about a place. -/
def Misses : List PathStep → Node → List String → Prop
  | [], node, place => node.SilentAt place
  | .name key :: path, node, name :: place => lowercase key = name → Misses path node place
  | _, _, _ => False

instance decidableMisses :
    (path : List PathStep) → (node : Node) → (place : List String) →
      Decidable (Misses path node place)
  | [], node, place => inferInstanceAs (Decidable (node.SilentAt place))
  | .name key :: path, node, name :: place =>
      have := decidableMisses path node place
      inferInstanceAs (Decidable (lowercase key = name → Misses path node place))
  | .name _ :: _, _, [] => isFalse id
  | .index _ :: _, _, [] => isFalse id
  | .index _ :: _, _, _ :: _ => isFalse id

theorem misses_of_ne {first second : String} (differ : lowercase first ≠ second)
    (place : List String) (path : List PathStep) (node : Node) (more : List String) :
    Misses (place.map .name ++ .name first :: path) node (place ++ second :: more) := by
  induction place with
  | nil => exact fun same => absurd same differ
  | cons name place ih => exact fun _ => ih

theorem names_inj {first second : List String}
    (same : first.map PathStep.name = second.map PathStep.name) : first = second :=
  (List.map_inj_right fun _ _ => PathStep.name.inj).mp same

/-- Nothing in a layer says anything about a place. -/
def SilentAt (layer : Entries) (place : List String) : Prop :=
  ∀ entry ∈ layer, Misses (KeyPath.ofKey entry.1) entry.2 place

instance (layer : Entries) (place : List String) : Decidable (SilentAt layer place) :=
  inferInstanceAs (Decidable (∀ entry ∈ layer, Misses (KeyPath.ofKey entry.1) entry.2 place))

section Merging

open Node (emptyTable)

mutual

theorem merge_tidy (incoming : Node) (existing : Option Node)
    (tidy : ∀ node, existing = some node → node.Tidy) : (merge incoming existing).Tidy := by
  cases incoming with
  | leaf origin value => exact .leaf origin value
  | list origin items => exact .list origin items
  | table origin entries =>
      rw [merge]
      refine mergeEntries_tidy entries _ ?_
      cases existing with
      | none => exact Node.tidy_emptyTable
      | some node => exact tidy node rfl

theorem mergeEntries_tidy (entries : List (String × Node)) (target : Node) (tidy : target.Tidy) :
    (mergeEntries entries target).Tidy := by
  cases entries with
  | nil => exact tidy
  | cons entry rest =>
      obtain ⟨key, value⟩ := entry
      rw [mergeEntries]
      exact mergeEntries_tidy rest _
        (tidy.put _ (merge_tidy value _ fun node found => tidy.child found))

end

/-- The entries of one name are put on top of one another, the others leave the name alone. -/
theorem child?_mergeEntries (entries : List (String × Node)) (target : Node) (name : String) :
    (mergeEntries entries target).child? name =
      entries.foldl (fun found entry =>
        if lowercase entry.1 = name then some (merge entry.2 found) else found)
        (target.child? name) := by
  induction entries generalizing target with
  | nil => rfl
  | cons entry rest ih =>
      obtain ⟨key, value⟩ := entry
      rw [mergeEntries, ih, Node.child?_put, List.foldl_cons]
      by_cases same : lowercase key = name
      · subst same
        simp only [if_true]
      · simp only [if_neg same, if_neg (Ne.symm same)]

theorem child?_getD (existing : Option Node) (name : String) :
    (existing.getD emptyTable).child? name = existing.bind (·.child? name) := by
  cases existing <;> rfl

theorem at?_merge_of_silentAt (silent : node.SilentAt place) :
    (merge node existing).at? place = existing.bind (·.at? place) := by
  induction place generalizing node existing with
  | nil => exact silent.elim
  | cons name place ih =>
      cases node with
      | leaf => exact silent.elim
      | list => exact silent.elim
      | table origin entries =>
          have kept : ∀ (entries : List (String × Node)) (found : Option Node),
              (∀ entry ∈ entries, lowercase entry.1 = name → entry.2.SilentAt place) →
              (entries.foldl (fun found entry =>
                if lowercase entry.1 = name then some (merge entry.2 found) else found)
                found).bind (·.at? place) = found.bind (·.at? place) := by
            intro entries
            induction entries with
            | nil => exact fun _ _ => rfl
            | cons entry rest others =>
                intro found each
                rw [List.foldl_cons, others _ fun entry member =>
                  each entry (List.mem_cons_of_mem _ member)]
                split
                · rename_i same
                  exact ih (each entry List.mem_cons_self same)
                · rfl
          rw [Node.at?_cons, merge, child?_mergeEntries, kept entries _ silent, child?_getD]
          cases existing <;> rfl

end Merging

section Writing

/-- The table that a name leads through: what is there, if it is one. -/
def opened : Option Node → Node
  | some (.table origin entries) => .table origin entries
  | _ => Node.emptyTable

theorem setAt_name (key : String) (path : List PathStep) (node : Node) (existing : Option Node) :
    setAt (.name key :: path) node existing =
      (opened existing).put (lowercase key)
        (setAt path node ((opened existing).child? (lowercase key))) := by
  rcases existing with _ | _ | _ | _ <;> rfl

theorem child?_opened (existing : Option Node) (name : String) :
    (opened existing).child? name = existing.bind (·.child? name) := by
  rcases existing with _ | _ | _ | _ <;> rfl

theorem opened_tidy (tidy : ∀ node, existing = some node → node.Tidy) : (opened existing).Tidy := by
  rcases existing with _ | _ | _ | _
  · exact Node.tidy_emptyTable
  · exact Node.tidy_emptyTable
  · exact Node.tidy_emptyTable
  · exact tidy _ rfl

theorem child?_setAt_name (key name : String) (path : List PathStep) (node : Node)
    (existing : Option Node) :
    (setAt (.name key :: path) node existing).child? name =
      if name = lowercase key then
        some (setAt path node (existing.bind (·.child? (lowercase key))))
      else existing.bind (·.child? name) := by
  rw [setAt_name, Node.child?_put, child?_opened, child?_opened]

theorem isTable_setAt_name (key : String) (path : List PathStep) (node : Node)
    (existing : Option Node) :
    ∃ origin entries, setAt (.name key :: path) node existing = .table origin entries := by
  rw [setAt_name]
  rcases existing with _ | _ | _ | _ <;> exact ⟨_, _, rfl⟩

theorem isList_setAt_index (index : Int) (path : List PathStep) (node : Node)
    (existing : Option Node) :
    ∃ origin items, setAt (.index index :: path) node existing = .list origin items := by
  cases path with
  | nil => rcases existing with _ | _ | _ | _ <;> exact ⟨_, _, rfl⟩
  | cons step rest => rcases existing with _ | _ | _ | _ <;> exact ⟨_, _, rfl⟩

/-- What is written at a path of names is found at their place. -/
theorem at?_setAt_names (place : List String) (lower : ∀ name ∈ place, lowercase name = name)
    (path : List PathStep) (node : Node) (existing : Option Node) :
    (setAt (place.map .name ++ path) node existing).at? place =
      some (setAt path node (existing.bind (·.at? place))) := by
  induction place generalizing existing with
  | nil => cases existing <;> rfl
  | cons name place ih =>
      rw [List.map_cons, List.cons_append, Node.at?_cons, child?_setAt_name,
        lower name List.mem_cons_self, if_pos rfl, Option.bind_some,
        ih fun other member => lower other (List.mem_cons_of_mem _ member)]
      cases existing <;> rfl

theorem at?_setAt_of_misses (misses : Misses path node place) :
    (setAt path node existing).at? place = existing.bind (·.at? place) := by
  induction path generalizing place existing with
  | nil => exact at?_merge_of_silentAt misses
  | cons step path ih =>
      cases step with
      | index position => cases place <;> exact misses.elim
      | name key =>
          cases place with
          | nil => exact misses.elim
          | cons name place =>
              rw [Node.at?_cons, child?_setAt_name]
              split
              · rename_i same
                subst same
                rw [Option.bind_some, ih (misses rfl)]
                cases existing <;> rfl
              · cases existing <;> rfl

theorem setAt_tidy (path : List PathStep) (node : Node) (existing : Option Node)
    (tidy : ∀ node, existing = some node → node.Tidy) : (setAt path node existing).Tidy := by
  induction path generalizing existing with
  | nil => exact merge_tidy node existing tidy
  | cons step path ih =>
      cases step with
      | index position =>
          obtain ⟨origin, items, same⟩ := isList_setAt_index position path node existing
          rw [same]
          exact .list origin items
      | name key =>
          rw [setAt_name]
          have tidyTable := opened_tidy tidy
          exact tidyTable.put _ (ih _ fun child found => tidyTable.child found)

end Writing

section Layers

theorem KeyPath.ofKey_eq_cons (key : String) : ∃ first rest, ofKey key = .name first :: rest := by
  unfold ofKey
  split
  · rename_i path parsed
    unfold parse at parsed
    simp only at parsed
    split at parsed
    · cases parsed
    · cases following : steps key.toList.length
          (key.toList.drop (key.toList.takeWhile isNameChar).length) with
      | error flaw => rw [following] at parsed; cases parsed
      | ok rest => rw [following] at parsed; cases parsed; exact ⟨_, _, rfl⟩
  · exact ⟨_, _, rfl⟩

theorem overlay_append (tree : Node) (first second : Entries) :
    overlay tree (first ++ second) = overlay (overlay tree first) second :=
  List.foldl_append

theorem overlay_cons (tree : Node) (entry : String × Node) (rest : Entries) :
    overlay tree (entry :: rest) =
      overlay (setAt (KeyPath.ofKey entry.1) entry.2 (some tree)) rest := rfl

theorem at?_overlay_of_silentAt (silent : SilentAt layer place) :
    (overlay tree layer).at? place = tree.at? place := by
  induction layer generalizing tree with
  | nil => rfl
  | cons entry rest ih =>
      rw [overlay_cons, ih fun entry member => silent entry (List.mem_cons_of_mem _ member)]
      exact at?_setAt_of_misses (silent entry List.mem_cons_self)

/-- Of all that is written at a place, around it and below it, the last thing counts. -/
theorem at?_overlay_last (tree : Node) (before after : Entries) (node : Node)
    (lower : ∀ name ∈ place, lowercase name = name)
    (leads : KeyPath.ofKey key = place.map .name) (silent : SilentAt after place) :
    (overlay tree (before ++ (key, node) :: after)).at? place =
      some (merge node ((overlay tree before).at? place)) := by
  have written := at?_setAt_names place lower [] node (some (overlay tree before))
  rw [List.append_nil, Option.bind_some] at written
  rw [overlay_append, overlay_cons, at?_overlay_of_silentAt silent, leads, written, setAt]

/-- What is written later in a layer leaves the places that are written before it as they are. -/
def Apart (layer : Entries) : Prop :=
  layer.Pairwise fun first second => ∀ place : List String,
    KeyPath.ofKey first.1 = place.map .name → Misses (KeyPath.ofKey second.1) second.2 place

theorem at?_overlay_of_apart (apart : Apart layer) (tree : Node) {origin : Option String}
    {value : Scalar} (member : (key, .leaf origin value) ∈ layer)
    (lower : ∀ name ∈ place, lowercase name = name)
    (leads : KeyPath.ofKey key = place.map .name) :
    (overlay tree layer).at? place = some (.leaf origin value) := by
  obtain ⟨before, after, rfl⟩ := List.append_of_mem member
  have later := (List.pairwise_cons.mp (List.pairwise_append.mp apart).2.1).1
  rw [at?_overlay_last tree before after _ lower leads fun entry isLater =>
    later entry isLater place leads, merge]

/-- Something stands at a place just when it did before or something is written there or below. -/
theorem isSome_at?_overlay (tree : Node)
    (lower : ∀ entry ∈ layer, ∀ more, KeyPath.ofKey entry.1 = place.map .name ++ more →
      ∀ name ∈ place, lowercase name = name)
    (each : ∀ entry ∈ layer, Misses (KeyPath.ofKey entry.1) entry.2 place ∨
      ∃ more, KeyPath.ofKey entry.1 = place.map .name ++ more) :
    ((overlay tree layer).at? place).isSome ↔ (tree.at? place).isSome ∨
      ∃ entry ∈ layer, ∃ more, KeyPath.ofKey entry.1 = place.map .name ++ more := by
  induction layer generalizing tree with
  | nil => simp [overlay]
  | cons entry rest ih =>
      simp only [List.mem_cons, exists_eq_or_imp]
      rw [overlay_cons, ih _ (fun entry member => lower entry (List.mem_cons_of_mem _ member))
        fun entry member => each entry (List.mem_cons_of_mem _ member), ← or_assoc]
      refine or_congr_left ?_
      by_cases below : ∃ more, KeyPath.ofKey entry.1 = place.map .name ++ more
      · obtain ⟨more, leads⟩ := below
        rw [leads, at?_setAt_names place (lower entry List.mem_cons_self more leads)]
        exact iff_of_true rfl (.inr ⟨more, rfl⟩)
      · have misses := (each entry List.mem_cons_self).resolve_right below
        rw [at?_setAt_of_misses misses, Option.bind_some]
        exact ⟨.inl, fun either => either.resolve_right below⟩

theorem overlay_tidy (tidy : tree.Tidy) (layer : Entries) : (overlay tree layer).Tidy := by
  induction layer generalizing tree with
  | nil => exact tidy
  | cons entry rest ih =>
      exact ih (setAt_tidy _ _ _ fun node same => Option.some.inj same ▸ tidy)

theorem isTable_emptyTable : ∃ origin entries, Node.emptyTable = .table origin entries :=
  ⟨none, [], rfl⟩

theorem isTable_overlay (isTable : ∃ origin entries, tree = .table origin entries)
    (layer : Entries) : ∃ origin entries, overlay tree layer = .table origin entries := by
  induction layer generalizing tree with
  | nil => exact isTable
  | cons entry rest ih =>
      obtain ⟨first, path, leads⟩ := KeyPath.ofKey_eq_cons entry.1
      rw [overlay_cons, leads]
      exact ih (isTable_setAt_name first path _ _)

theorem gather_concat (layers : List Entries) (last : Entries) :
    gather (layers ++ [last]) = overlay (gather layers) last := by
  rw [gather, List.foldl_append]
  rfl

theorem gather_tidy (layers : List Entries) : (gather layers).Tidy := by
  induction layers using List.reverseRecOn with
  | nil => exact Node.tidy_emptyTable
  | append_singleton layers last ih =>
      rw [gather_concat]
      exact overlay_tidy ih last

theorem isTable_gather (layers : List Entries) :
    ∃ origin entries, gather layers = .table origin entries := by
  induction layers using List.reverseRecOn with
  | nil => exact ⟨_, _, rfl⟩
  | append_singleton layers last ih =>
      rw [gather_concat]
      exact isTable_overlay ih last

end Layers

end Telemetry.Layer
