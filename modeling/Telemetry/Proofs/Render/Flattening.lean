import Telemetry.Proofs.Files.Naming
import Telemetry.Proofs.Json.Leaves
import Telemetry.Proofs.Json.Numerals
import Telemetry.Render.Event

/-!
Flattening a tree lists its leaves. A leaf stands behind the names on the way to it, and as long as no
name is empty and none has a slash in it, the names lead back to the leaf.
-/

namespace Telemetry

open Json (Place Step)

namespace Json

/-- The number that a name on a path spells. -/
def numbered? (name : List Char) : Option Nat :=
  if Decimal.isDigits name then some (Decimal.digitsValue name) else none

/-- The part of a value that a name on a path stands for: what is under the key, or the item with
that number. -/
def named? : Json → List Char → Option Json
  | .object fields, name => findEntry (String.ofList name) fields
  | .array items, name => (numbered? name).bind fun place => items[place]?
  | _, _ => none

/-- The part of a value to which names lead. -/
def followed? : Json → List (List Char) → Option Json
  | value, [] => some value
  | value, name :: names => (value.named? name).bind fun child => child.followed? names

end Json

namespace Render

/-- The name of a step on a path. -/
def stepName : Step → List Char
  | .key name => name.toList
  | .index place => indexName place

/-- The names on the way to a place, with slashes between them. A value that is a leaf itself is
listed under a name of its own. -/
def pathText (place : Place) : List Char :=
  if place = [] then "value".toList else List.intercalate ['/'] (place.map stepName)

/-- What is listed of a leaf: a string as it is, anything else by its JSON text. -/
def leafText : Json → List Char
  | .string value => value.toList
  | value => Json.inline value

/-- The path on which flattening arrives at a place below a path. -/
def extendPath (path : List Char) (place : Place) : List Char :=
  place.foldl (fun path step => joinPath path (stepName step)) path

variable {root : Json} {place later : Place} {leaf : Json} {step : Step}

mutual

theorem flatten_eq (path : List Char) (value : Json) :
    flatten path value =
      value.leaves.map fun leaf => (leafPath (extendPath path leaf.1), leafText leaf.2) := by
  match value with
  | .null | .bool _ | .integer _ | .double _ | .string _ => rfl
  | .array items => exact flattenItems_eq path 0 items
  | .object fields => exact flattenFields_eq path fields

theorem flattenFields_eq (path : List Char) (fields : List (String × Json)) :
    flattenFields path fields =
      (Json.fieldLeaves fields).map fun leaf =>
        (leafPath (extendPath path leaf.1), leafText leaf.2) := by
  match fields with
  | [] => rfl
  | (key, value) :: fields =>
      rw [flattenFields, Json.fieldLeaves, List.map_append, List.map_map, flatten_eq _ value,
        flattenFields_eq path fields]
      rfl

theorem flattenItems_eq (path : List Char) (index : Nat) (items : List Json) :
    flattenItems path index items =
      (Json.itemLeaves index items).map fun leaf =>
        (leafPath (extendPath path leaf.1), leafText leaf.2) := by
  match items with
  | [] => rfl
  | item :: items =>
      rw [flattenItems, Json.itemLeaves, List.map_append, List.map_map, flatten_eq _ item,
        flattenItems_eq path (index + 1) items]
      rfl

end

theorem indexName_eq (index : Nat) : indexName index = Nat.toDigits 10 index := by
  rw [indexName, Nat.toString_eq_ofList_toDigits, String.toList_ofList]

theorem isDigit_of_mem_indexName {index : Nat} {c : Char} (member : c ∈ indexName index) :
    c.isDigit = true := by
  rw [indexName_eq] at member
  exact Nat.isDigit_of_mem_toDigits (by decide) (by decide) member

theorem indexName_ne_nil (index : Nat) : indexName index ≠ [] := by
  rw [indexName_eq]
  exact Nat.toDigits_ne_nil

theorem numbered?_indexName (index : Nat) : Json.numbered? (indexName index) = some index := by
  have digits : Decimal.isDigits (indexName index) = true := by
    simp only [Decimal.isDigits, Bool.and_eq_true, Bool.not_eq_true', List.isEmpty_eq_false_iff,
      List.all_eq_true]
    exact ⟨indexName_ne_nil index, fun c member => isDigit_of_mem_indexName member⟩
  rw [Json.numbered?, if_pos digits, indexName_eq, Decimal.digitsValue_toDigits]

theorem stepName_eq_nil : stepName step = [] ↔ step = .key "" := by
  cases step with
  | key name => simp [stepName]
  | index place => simp [stepName, indexName_ne_nil]

/-- Names that lead to different parts of one container are different. -/
theorem stepName_ne_of_before {first second : Step} (before : first.Before second) :
    stepName first ≠ stepName second := by
  intro same
  cases before with
  | keys below =>
      rw [stepName, stepName] at same
      rw [same] at below
      exact List.lt_irrefl _ below
  | @indices first second below =>
      have numbers := congrArg Json.numbered? same
      rw [stepName, stepName, numbered?_indexName, numbered?_indexName] at numbers
      exact Nat.ne_of_lt below (Option.some.inj numbers)

theorem names_ne_of_before (before : place.Before later) :
    place.map stepName ≠ later.map stepName := by
  induction before with
  | nil => simp
  | cons before ih =>
      intro same
      exact ih (List.cons.inj same).2
  | rel before =>
      intro same
      exact stepName_ne_of_before before (List.cons.inj same).1

theorem named?_of_child {value child : Json} (found : value.child? step = some child) :
    value.named? (stepName step) = some child := by
  cases value with
  | array items =>
      cases step with
      | key name => cases found
      | index place =>
          rw [stepName, Json.named?, numbered?_indexName]
          exact found
  | object fields =>
      cases step with
      | key name =>
          rw [stepName, Json.named?, String.ofList_toList]
          exact found
      | index place => cases found
  | _ => cases found

theorem followed?_of_part (found : root.part? place = some leaf) :
    root.followed? (place.map stepName) = some leaf := by
  induction place generalizing root with
  | nil => exact found
  | cons step place ih =>
      obtain ⟨child, isChild, inChild⟩ := Option.bind_eq_some_iff.mp found
      rw [List.map_cons, Json.followed?, named?_of_child isChild]
      exact ih inChild

theorem intercalate_cons (first : List Char) (names : List (List Char)) :
    List.intercalate ['/'] (first :: names) = first ++ names.flatMap ('/' :: ·) := by
  induction names generalizing first with
  | nil => simp
  | cons second names ih => rw [List.intercalate_cons_cons, ih]; simp

theorem pathText_cons (step : Step) (place : Place) :
    pathText (step :: place) = stepName step ++ (place.map stepName).flatMap ('/' :: ·) := by
  rw [pathText, if_neg (List.cons_ne_nil _ _), List.map_cons, intercalate_cons]

theorem extendPath_cons (path : List Char) (step : Step) (place : Place) :
    extendPath path (step :: place) = extendPath (joinPath path (stepName step)) place := rfl

theorem joinPath_nil (name : List Char) : joinPath [] name = name := rfl

theorem joinPath_of_ne_nil {path : List Char} (nonempty : path ≠ []) (name : List Char) :
    joinPath path name = path ++ '/' :: name := by
  simp [joinPath, nonempty]

theorem extendPath_of_ne_nil {path : List Char} (nonempty : path ≠ []) (place : Place) :
    extendPath path place = path ++ (place.map stepName).flatMap ('/' :: ·) := by
  induction place generalizing path with
  | nil => simp [extendPath]
  | cons step place ih =>
      have longer : path ++ '/' :: stepName step ≠ [] := by simp
      rw [extendPath_cons, joinPath_of_ne_nil nonempty, ih longer]
      simp

/-- Flattening arrives at a place on the names that lead there, if the first of them is one. -/
theorem leafPath_extendPath (named : place.head? ≠ some (.key "")) :
    leafPath (extendPath [] place) = pathText place := by
  cases place with
  | nil => rfl
  | cons step place =>
      have nonempty : stepName step ≠ [] := fun empty =>
        named (congrArg some (stepName_eq_nil.mp empty))
      rw [extendPath_cons, joinPath_nil, extendPath_of_ne_nil nonempty, pathText_cons, leafPath]
      simp [nonempty]

/-- A key that is a name on a path of its own: it is not empty, and no slash cuts it. -/
def IsPlainKey (name : String) : Prop := name ≠ "" ∧ '/' ∉ name.toList

instance : DecidablePred IsPlainKey := fun name =>
  inferInstanceAs (Decidable (name ≠ "" ∧ '/' ∉ name.toList))

theorem isPlain_stepName (plain : ∀ name, step = .key name → IsPlainKey name) :
    Files.IsPlain (stepName step) := by
  cases step with
  | key name => exact (plain name rfl).2
  | index place =>
      intro slash
      exact absurd (isDigit_of_mem_indexName slash) (by decide)

/-- A path is cut at the slashes into the names that it was made of. -/
theorem splitSlashes_pathText (below : place ≠ [])
    (plain : ∀ name, .key name ∈ place → IsPlainKey name) :
    Files.splitSlashes (pathText place) = place.map stepName := by
  have pieces : ∀ piece ∈ place.map stepName, Files.IsPlain piece := by
    intro piece member
    obtain ⟨step, isStep, rfl⟩ := List.mem_map.mp member
    exact isPlain_stepName fun name same => plain name (same ▸ isStep)
  rw [pathText, if_neg below, Files.splitSlashes_eq_splitOn]
  exact List.splitOn_intercalate '/' pieces (by simpa using below)

theorem head?_ne_of_plain (plain : ∀ name, .key name ∈ place → IsPlainKey name) :
    place.head? ≠ some (.key "") := fun first =>
  (plain "" (List.mem_of_mem_head? first)).1 rfl

theorem flatten_of_plain (plain : root.AllKeys IsPlainKey) :
    flatten [] root = root.leaves.map fun leaf => (pathText leaf.1, leafText leaf.2) := by
  rw [flatten_eq]
  refine List.map_congr_left fun leaf member => ?_
  rw [leafPath_extendPath (head?_ne_of_plain fun name onWay => plain.on_way member onWay)]

/-- The root of a value that is a container is none of its leaves. -/
theorem ne_nil_of_listed (listing : root.Listing root.leaves) (container : root.isScalar = false)
    (member : (place, leaf) ∈ root.leaves) : place ≠ [] := by
  rintro rfl
  obtain ⟨found, scalar⟩ := (listing.complete [] leaf).mp member
  cases found
  rw [container] at scalar
  cases scalar

theorem pathText_ne_of_before (before : place.Before later) (first : place ≠ [])
    (second : later ≠ []) (plain : ∀ name, .key name ∈ place → IsPlainKey name)
    (laterPlain : ∀ name, .key name ∈ later → IsPlainKey name) :
    pathText place ≠ pathText later := by
  intro same
  have names := congrArg Files.splitSlashes same
  rw [splitSlashes_pathText first plain, splitSlashes_pathText second laterPlain] at names
  exact names_ne_of_before before names

theorem paths_nodup (ordered : root.Ordered) (plain : root.AllKeys IsPlainKey) :
    ((flatten [] root).map (·.1)).Nodup := by
  have listing := Json.listing_leaves ordered
  rw [flatten_of_plain plain, List.map_map]
  cases container : root.isScalar with
  | true =>
      rw [Json.leaves_of_isScalar container]
      exact List.pairwise_singleton _ _
  | false =>
      refine List.pairwise_map.mpr (listing.inOrder.imp_of_mem ?_)
      rintro ⟨place, leaf⟩ ⟨later, other⟩ own member before
      exact pathText_ne_of_before before (ne_nil_of_listed listing container own)
        (ne_nil_of_listed listing container member) (fun name onWay => plain.on_way own onWay)
        (fun name onWay => plain.on_way member onWay)

/-- A value whose keys are plain names. Flattening it lists its leaves, all of them and nothing
else, in document order: under paths that all differ, strings as they are and anything else by its
JSON text. A path is cut at its slashes into the names of the steps to the leaf, and they lead from
the root to the leaf; a value that is a leaf itself is listed under a name of its own. -/
theorem flatten_lists_leaves (ordered : root.Ordered) (plain : root.AllKeys IsPlainKey) :
    ∃ leaves, root.Listing leaves ∧
      flatten [] root = leaves.map (fun leaf => (pathText leaf.1, leafText leaf.2)) ∧
      ((flatten [] root).map (·.1)).Nodup ∧
      (root.isScalar = true → flatten [] root = [("value".toList, leafText root)]) ∧
      (root.isScalar = false → ∀ leaf ∈ leaves,
        Files.splitSlashes (pathText leaf.1) = leaf.1.map stepName ∧
          root.followed? (Files.splitSlashes (pathText leaf.1)) = some leaf.2) := by
  have listing := Json.listing_leaves ordered
  refine ⟨root.leaves, listing, flatten_of_plain plain, paths_nodup ordered plain, ?_, ?_⟩
  · intro scalar
    rw [flatten_of_plain plain, Json.leaves_of_isScalar scalar]
    rfl
  · rintro container ⟨place, leaf⟩ member
    have names := splitSlashes_pathText (ne_nil_of_listed listing container member)
      fun name onWay => plain.on_way member onWay
    refine ⟨names, ?_⟩
    rw [names]
    exact followed?_of_part ((listing.complete place leaf).mp member).1

/-- Fields, items, and containers without any, below one another. -/
theorem nested_leaves_listed :
    let root : Json := .object [
      ("eth0", .object [("mtu", .integer 1500), ("up", .bool true)]),
      ("none", .array []),
      ("tags", .array [.string "a", .array [.null]])]
    flatten [] root = [("eth0/mtu".toList, "1500".toList), ("eth0/up".toList, "true".toList),
      ("tags/0".toList, "a".toList), ("tags/1/0".toList, "null".toList)] ∧
    ((flatten [] root).map (·.1)).Nodup ∧
    root.followed? (Files.splitSlashes "tags/1/0".toList) = some .null := by
  intro root
  have ordered : root.Ordered := by decide
  have plain : root.AllKeys IsPlainKey := by decide
  obtain ⟨leaves, listing, listed, nodup, _, followed⟩ := flatten_lists_leaves ordered plain
  have entries : flatten [] root = [("eth0/mtu".toList, "1500".toList),
      ("eth0/up".toList, "true".toList), ("tags/0".toList, "a".toList),
      ("tags/1/0".toList, "null".toList)] := by decide
  have isLeaf : ([.key "tags", .index 1, .index 0], .null) ∈ leaves :=
    (listing.complete _ _).mpr ⟨rfl, rfl⟩
  exact ⟨entries, nodup, (followed rfl _ isLeaf).2⟩

end Render

end Telemetry
