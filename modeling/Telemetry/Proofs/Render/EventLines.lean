import Telemetry.Proofs.Json.SingleLine
import Telemetry.Proofs.Render.Flattening
import Telemetry.Proofs.Render.Source

/-!
The lines of the event format: one for the source, then one for each leaf of the message, exactly when
no key and no string breaks its line and no path begins with an empty name.
-/

namespace Telemetry.Render

open Json (Place)

/-- The line in which the event format names the source. -/
def sourceLine (source : String) : List Char := leafLine ("source".toList, source.toList)

/-- The line of a leaf: the path that leads to it and its text. -/
def listedLine (leaf : Place × Json) : List Char := leafLine (pathText leaf.1, leafText leaf.2)

/-- A leaf that is listed in one line of its own: there is no line break in a key on the way to it,
nor in it if it is a string, and its path does not begin with an empty name. -/
structure IsListable (leaf : Place × Json) : Prop where
  keys : ∀ name, .key name ∈ leaf.1 → '\n' ∉ name.toList
  text : ∀ value, leaf.2 = .string value → '\n' ∉ value.toList
  named : leaf.1.head? ≠ some (.key "")

variable {place : Place} {leaf : Json} {path text : List Char} {leaves : List (Place × Json)}
  {source : String}

/-- The line that is written for a leaf. -/
def writtenLine (leaf : Place × Json) : List Char :=
  leafLine (leafPath (extendPath [] leaf.1), leafText leaf.2)

theorem eventLines_eq (content : Json) (source : String) :
    eventLines content (Print.metadata source) =
      sourceLine source :: content.leaves.map writtenLine := by
  rw [eventLines, flatten_eq, List.map_map]
  rfl

theorem newline_not_mem_joinPath {name : List Char} :
    '\n' ∉ joinPath path name ↔ '\n' ∉ path ∧ '\n' ∉ name := by
  unfold joinPath
  split
  · rename_i empty
    rw [List.isEmpty_iff.mp empty]
    simp
  · simp

theorem newline_not_mem_extendPath :
    '\n' ∉ extendPath path place ↔ '\n' ∉ path ∧ ∀ step ∈ place, '\n' ∉ stepName step := by
  induction place generalizing path with
  | nil => simp [extendPath]
  | cons step place ih =>
      rw [extendPath_cons, ih, newline_not_mem_joinPath, and_assoc, List.forall_mem_cons]

theorem newline_not_mem_leafPath : '\n' ∉ leafPath path ↔ '\n' ∉ path := by
  unfold leafPath
  split
  · rename_i empty
    rw [List.isEmpty_iff.mp empty]
    exact iff_of_true (by decide) List.not_mem_nil
  · rfl

theorem newline_not_mem_names :
    (∀ step ∈ place, '\n' ∉ stepName step) ↔
      ∀ name, .key name ∈ place → '\n' ∉ name.toList := by
  refine ⟨fun each name onWay => each _ onWay, fun keys step onWay => ?_⟩
  cases step with
  | key name => exact keys name onWay
  | index index => exact fun member => absurd (isDigit_of_mem_indexName member) (by decide)

theorem newline_not_mem_leafText :
    '\n' ∉ leafText leaf ↔ ∀ value, leaf = .string value → '\n' ∉ value.toList := by
  cases leaf with
  | string value => simp [leafText]
  | _ => exact iff_of_true (Json.newline_not_mem_inline _) (fun _ same => by cases same)

instance (leaf : Place × Json) : Decidable (IsListable leaf) :=
  decidable_of_iff ((∀ step ∈ leaf.1, '\n' ∉ stepName step) ∧ '\n' ∉ leafText leaf.2 ∧
      leaf.1.head? ≠ some (.key "")) <| by
    rw [newline_not_mem_names, newline_not_mem_leafText]
    exact ⟨fun ⟨keys, text, named⟩ => ⟨keys, text, named⟩,
      fun listable => ⟨listable.keys, listable.text, listable.named⟩⟩

/-- The line that is written for a leaf is broken by its keys and by its string, if at all. -/
theorem newline_not_mem_writtenLine :
    '\n' ∉ writtenLine (place, leaf) ↔ (∀ name, .key name ∈ place → '\n' ∉ name.toList) ∧
      ∀ value, leaf = .string value → '\n' ∉ value.toList := by
  have parts : '\n' ∉ writtenLine (place, leaf) ↔
      '\n' ∉ leafPath (extendPath [] place) ∧ '\n' ∉ leafText leaf := by
    simp [writtenLine, leafLine]
  rw [parts, newline_not_mem_leafPath, newline_not_mem_extendPath, newline_not_mem_names,
    newline_not_mem_leafText]
  simp

/-- A path on which flattening arrives is shorter than its names with a slash before each. -/
theorem length_extendPath_lt (below : place ≠ []) :
    (extendPath [] place).length < ((place.map stepName).flatMap ('/' :: ·)).length := by
  induction place with
  | nil => exact absurd rfl below
  | cons step place ih =>
      rw [extendPath_cons, joinPath_nil, List.map_cons, List.flatMap_cons]
      by_cases empty : stepName step = []
      · by_cases last : place = []
        · subst last
          simp [empty, extendPath]
        · have shorter := ih last
          rw [empty]
          simp only [List.length_append, List.length_cons]
          omega
      · rw [extendPath_of_ne_nil empty]
        simp

/-- A leaf is listed under the names that lead to it, unless the first of them is empty: it is left
out, with the slash behind it. -/
theorem leafPath_extendPath_iff :
    leafPath (extendPath [] place) = pathText place ↔ place.head? ≠ some (.key "") := by
  refine ⟨fun same first => ?_, leafPath_extendPath⟩
  cases place with
  | nil => cases first
  | cons step rest =>
      cases first
      rw [extendPath_cons, joinPath_nil, pathText_cons] at same
      cases rest with
      | nil => exact absurd same (by decide)
      | cons next rest =>
          have shorter := length_extendPath_lt (List.cons_ne_nil next rest)
          unfold leafPath at same
          split at same
          · exact absurd (List.cons.inj same).1 (by decide)
          · exact absurd (congrArg List.length same) (Nat.ne_of_lt shorter)

theorem writtenLine_eq_listedLine_iff {leaf : Place × Json} :
    writtenLine leaf = listedLine leaf ↔ leaf.1.head? ≠ some (.key "") := by
  rw [writtenLine, listedLine, leafLine, leafLine, List.append_left_inj, leafPath_extendPath_iff]

theorem newline_not_mem_sourceLine (unbroken : '\n' ∉ source.toList) :
    '\n' ∉ sourceLine source := by
  simp [sourceLine, leafLine, unbroken]

/-- Written below one another, the lines of leaves are those that are listed exactly when each leaf is
listed in one line. -/
theorem lines_listed_iff (unbroken : '\n' ∉ source.toList) :
    Text.lines (Text.unlines (sourceLine source :: leaves.map writtenLine)) =
        sourceLine source :: leaves.map listedLine ↔ ∀ leaf ∈ leaves, IsListable leaf := by
  have first := newline_not_mem_sourceLine unbroken
  rw [Text.lines_unlines_flatMap (List.cons_ne_nil _ _)]
  constructor
  · intro listed
    have whole : ∀ piece ∈ sourceLine source :: leaves.map writtenLine, '\n' ∉ piece := by
      refine Text.length_flatMap_lines_iff.mp ?_
      rw [listed]
      simp
    rw [Text.flatMap_lines whole, List.cons.injEq, List.map_inj_left] at listed
    intro leaf member
    have own := whole _ (List.mem_cons_of_mem _ (List.mem_map_of_mem member))
    obtain ⟨keys, text⟩ := newline_not_mem_writtenLine.mp own
    exact ⟨keys, text, writtenLine_eq_listedLine_iff.mp (listed.2 leaf member)⟩
  · intro listable
    have whole : ∀ piece ∈ sourceLine source :: leaves.map writtenLine, '\n' ∉ piece := by
      refine List.forall_mem_cons.mpr ⟨first, List.forall_mem_map.mpr fun leaf member => ?_⟩
      exact newline_not_mem_writtenLine.mpr ⟨(listable leaf member).keys, (listable leaf member).text⟩
    rw [Text.flatMap_lines whole]
    exact congrArg _ (List.map_congr_left fun leaf member =>
      writtenLine_eq_listedLine_iff.mpr (listable leaf member).named)

/-- A line that reads as the line of a path is that of a leaf with this path, unless the mark between
path and text is in one of the two paths. -/
theorem leaf_of_line {value : List Char} (member : leafLine (path, value) ∈ leaves.map listedLine) :
    ∃ leaf ∈ leaves, (path = pathText leaf.1 ∧ value = leafText leaf.2) ∨
      path ++ [':', ' '] <+: pathText leaf.1 ∨ pathText leaf.1 ++ [':', ' '] <+: path := by
  obtain ⟨leaf, isLeaf, same⟩ := List.mem_map.mp member
  refine ⟨leaf, isLeaf, ?_⟩
  have marked : path ++ ':' :: ' ' :: value = pathText leaf.1 ++ ':' :: ' ' :: leafText leaf.2 :=
    same.symm
  rcases Text.eq_or_isPrefix_of_marked (by decide) marked with equal | begins | begins
  · rw [equal, List.append_cancel_left_eq] at marked
    exact .inl ⟨equal, (List.cons.inj (List.cons.inj marked).2).2⟩
  · exact .inr (.inl begins)
  · exact .inr (.inr begins)

theorem builtIn_event (message : Message) (indent : List Char) (source : String) :
    Formatter.builtIn message ⟨true, indent, "event"⟩ (Print.metadata source) =
      .ok (.text (Text.unlines (sourceLine source :: message.toJson.leaves.map writtenLine))) := by
  have content : event message.toJson true (Print.metadata source) =
      Text.unlines (sourceLine source :: message.toJson.leaves.map writtenLine) := by
    rw [event, if_pos rfl, eventLines_eq]
    rfl
  simp [Formatter.builtIn, content]

/-- A message in the event format, of a source without a line break. Its lines are that of the source
and then one for each leaf of its tree, in document order, the names that lead to the leaf and its
text, exactly when no key on the way to a leaf and no string breaks its line and no path begins with an
empty name. Then a line that reads as the line of a path is that of a leaf with this path, unless the
mark between path and text is in a path. -/
theorem event_lists_leaves_iff {message : Message}
    (ordered : ∀ payload, message.payload? = some payload → payload.Ordered)
    (unbroken : '\n' ∉ source.toList) (indent : List Char) :
    ∃ text leaves,
      Formatter.builtIn message ⟨true, indent, "event"⟩ (Print.metadata source) =
        .ok (.text text) ∧
      message.toJson.Listing leaves ∧
      (Text.lines text = sourceLine source :: leaves.map listedLine ↔
        ∀ leaf ∈ leaves, IsListable leaf) ∧
      ((∀ leaf ∈ leaves, IsListable leaf) → ∀ path value,
        leafLine (path, value) ∈ (Text.lines text).tail →
          ∃ leaf ∈ leaves, (path = pathText leaf.1 ∧ value = leafText leaf.2) ∨
            path ++ [':', ' '] <+: pathText leaf.1 ∨ pathText leaf.1 ++ [':', ' '] <+: path) := by
  have listed := @lines_listed_iff message.toJson.leaves source unbroken
  refine ⟨_, _, builtIn_event message indent source,
    Json.listing_leaves (Message.ordered_toJson ordered), listed, ?_⟩
  intro listable path value member
  rw [listed.mpr listable, List.tail_cons] at member
  exact leaf_of_line member

/-- An answer with nested leaves, none of which breaks its line. -/
theorem nested_answer_listed :
    let message : Message := .subscribe
      (.object [("eth0", .object [("mtu", .integer 1500)]), ("tags", .array [.string "a: b"])])
    ∃ text, Formatter.builtIn message ⟨true, [], "event"⟩ (Print.metadata "r1") =
        .ok (.text text) ∧
      Text.lines text = ["source: r1".toList, "eth0/mtu: 1500".toList, "tags/0: a: b".toList] := by
  intro message
  have ordered : ∀ payload, message.payload? = some payload → payload.Ordered := by
    rintro payload ⟨⟩
    decide
  have unbroken : '\n' ∉ "r1".toList := by decide
  obtain ⟨text, leaves, rendered, listing, listed, _⟩ :=
    event_lists_leaves_iff ordered unbroken []
  have all : leaves = message.toJson.leaves :=
    listing.eq (Json.listing_leaves (Message.ordered_toJson ordered))
  have listable : ∀ leaf ∈ leaves, IsListable leaf := by
    rw [all]
    decide
  refine ⟨text, rendered, ?_⟩
  rw [listed.mpr listable, all]
  decide

/-- A string with a line break in it: its second line reads as that of a path which the answer does
not have. -/
theorem broken_string_forges_line :
    let message : Message := .get (.object [("a", .string "x\nb: 1")])
    ∃ text, Formatter.builtIn message ⟨true, [], "event"⟩ (Print.metadata "r1") =
        .ok (.text text) ∧
      Text.lines text = [sourceLine "r1", "a: x".toList, leafLine ("b".toList, "1".toList)] ∧
      message.toJson.leaves = [([.key "a"], .string "x\nb: 1")] := by
  refine ⟨"source: r1\na: x\nb: 1".toList, ?_, ?_, ?_⟩
  · rfl
  · decide
  · rfl

end Telemetry.Render
