import Telemetry.Proofs.Text.Lines

/-!
Labels come off again. A labelled text has the lines of the text, each with the label in front, so
without the labels it is the text as it was, less one newline at its end.
-/

namespace Telemetry.Text

variable {label text other : List Char} {pieces : List (List Char)}

/-- What the lines of a text are: pieces without a newline in them, which make the text when
newlines are put between them. -/
structure AreLines (pieces : List (List Char)) (text : List Char) : Prop where
  nonempty : pieces ≠ []
  unbroken : ∀ piece ∈ pieces, '\n' ∉ piece
  joined : List.intercalate ['\n'] pieces = text

theorem joinWith_eq_intercalate (separator : List Char) (pieces : List (List Char)) :
    joinWith separator pieces = List.intercalate separator pieces := by
  induction pieces with
  | nil => rfl
  | cons first rest ih =>
      cases rest with
      | nil => rw [joinWith, List.intercalate_singleton]
      | cons second rest =>
          have joined : joinWith separator (first :: second :: rest) =
              first ++ separator ++ joinWith separator (second :: rest) := rfl
          rw [joined, ih, List.intercalate_cons_cons]

theorem areLines_lines (text : List Char) : AreLines (lines text) text where
  nonempty := lines_ne_nil text
  unbroken _ member := not_mem_of_mem_lines member
  joined := by rw [← joinWith_eq_intercalate, ← unlines, unlines_lines]

/-- A text has its lines in one way only. -/
theorem AreLines.eq_lines (areLines : AreLines pieces text) : pieces = lines text := by
  rw [← areLines.joined, ← joinWith_eq_intercalate, ← unlines,
    lines_unlines areLines.nonempty areLines.unbroken]

theorem dropFinalNewline_append (text : List Char) :
    text = dropFinalNewline text ++ (if text.getLast? = some '\n' then ['\n'] else []) := by
  by_cases ends : text.getLast? = some '\n'
  · rw [dropFinalNewline, if_pos ends, if_pos ends]
    exact (List.dropLast_append_getLast? '\n' ends).symm
  · rw [dropFinalNewline, if_neg ends, if_neg ends, List.append_nil]

theorem labelLines_inj (unbroken : '\n' ∉ label) :
    labelLines label text = labelLines label other ↔
      dropFinalNewline text = dropFinalNewline other := by
  refine ⟨fun same => ?_, fun same => by rw [labelLines_eq, labelLines_eq, same]⟩
  have cut := congrArg lines same
  rw [lines_labelLines unbroken, lines_labelLines unbroken] at cut
  have plain : lines (dropFinalNewline text) = lines (dropFinalNewline other) := by
    rw [← map_drop_label label (lines (dropFinalNewline text)), cut, map_drop_label]
  rw [← unlines_lines (dropFinalNewline text), plain, unlines_lines]

/-- A label without a newline, before the lines of any text. There are as many lines as in the text
without one newline at its end, each with the label in front of what it was, and without the labels
they are that text; of two texts that are labelled alike, one has at most this newline more. The
empty label, which is left out, is no exception: all that it takes from a text is that newline. -/
theorem labels_come_off (unbroken : '\n' ∉ label) (text : List Char) :
    let body := dropFinalNewline text
    let labelled := labelLines label text
    text = body ++ (if text.getLast? = some '\n' then ['\n'] else []) ∧
    (∃ plain, AreLines plain body ∧ AreLines (plain.map (label ++ ·)) labelled) ∧
    (∀ plain marked, AreLines plain body → AreLines marked labelled →
      marked.length = plain.length ∧ marked = plain.map (label ++ ·) ∧
      List.intercalate ['\n'] (marked.map (List.drop label.length)) = body) ∧
    (∀ other, labelLines label other = labelled → other = body ∨ other = body ++ ['\n']) ∧
    labelLines [] text = body ∧
    ∀ anyLabel plain, AreLines plain body →
      labelLines anyLabel text = List.intercalate ['\n'] (plain.map (anyLabel ++ ·)) := by
  intro body labelled
  have cut : lines labelled = (lines body).map (label ++ ·) := lines_labelLines unbroken text
  refine ⟨dropFinalNewline_append text, ⟨lines body, areLines_lines body, ?lined⟩,
    fun plain marked ofBody ofLabelled => ?unique, fun other same => ?lost, rfl,
    fun anyLabel plain ofBody => ?general⟩
  case lined =>
    rw [← cut]
    exact areLines_lines labelled
  case unique =>
    have same : marked = plain.map (label ++ ·) := by
      rw [ofLabelled.eq_lines, cut, ← ofBody.eq_lines]
    refine ⟨by rw [same, List.length_map], same, ?_⟩
    rw [same, map_drop_label, ofBody.joined]
  case lost =>
    have whole := dropFinalNewline_append other
    rw [(labelLines_inj unbroken).mp same] at whole
    split at whole
    · exact .inr whole
    · exact .inl (whole.trans (List.append_nil body))
  case general =>
    rw [labelLines_eq, ← ofBody.eq_lines, unlines, joinWith_eq_intercalate]

/-- A text with an empty line in between and another one at its end. -/
theorem empty_lines_labelled :
    '\n' ∉ "[r1] ".toList ∧
    labelLines "[r1] ".toList "a\n\nb\n\n".toList = "[r1] a\n[r1] \n[r1] b\n[r1] ".toList ∧
    ∀ other, labelLines "[r1] ".toList other = "[r1] a\n[r1] \n[r1] b\n[r1] ".toList →
      other = "a\n\nb\n".toList ∨ other = "a\n\nb\n\n".toList := by
  have unbroken : '\n' ∉ "[r1] ".toList := by decide
  have labelled : labelLines "[r1] ".toList "a\n\nb\n\n".toList =
      "[r1] a\n[r1] \n[r1] b\n[r1] ".toList := by decide
  obtain ⟨_, _, _, lost, _⟩ := labels_come_off unbroken "a\n\nb\n\n".toList
  exact ⟨unbroken, labelled, fun other same => lost other (same.trans labelled.symm)⟩

end Telemetry.Text
