import Mathlib.Data.List.Basic
import Telemetry.Print.Transcript
import Telemetry.Text.Lines

/-!
Cutting a text into lines and joining lines to a text undo one another.
-/

namespace Telemetry

namespace Text

variable {line text label : List Char} {pieces : List (List Char)}

theorem lines_cons_newline (text : List Char) : lines ('\n' :: text) = [] :: lines text := by
  simp [lines]

theorem lines_cons_of_ne {c : Char} (other : c ≠ '\n') {first : List Char}
    {rest : List (List Char)} (cut : lines text = first :: rest) :
    lines (c :: text) = (c :: first) :: rest := by
  simp [lines, other, cut]

theorem exists_lines (text : List Char) : ∃ first rest, lines text = first :: rest :=
  List.exists_cons_of_ne_nil (lines_ne_nil text)

theorem lines_append_newline (first rest : List Char) :
    lines (first ++ '\n' :: rest) = lines first ++ lines rest := by
  induction first with
  | nil => exact lines_cons_newline rest
  | cons c more ih =>
      by_cases newline : c = '\n'
      · subst newline
        rw [List.cons_append, lines_cons_newline, lines_cons_newline, ih, List.cons_append]
      · obtain ⟨head, tail, cut⟩ := exists_lines more
        have cutBoth : lines (more ++ '\n' :: rest) = head :: (tail ++ lines rest) := by
          rw [ih, cut, List.cons_append]
        rw [List.cons_append, lines_cons_of_ne newline cutBoth, lines_cons_of_ne newline cut,
          List.cons_append]

theorem lines_of_not_mem (unbroken : '\n' ∉ text) : lines text = [text] := by
  induction text with
  | nil => rfl
  | cons c rest ih =>
      obtain ⟨other, others⟩ := List.ne_and_not_mem_of_not_mem_cons unbroken
      exact lines_cons_of_ne other.symm (ih others)

theorem not_mem_of_mem_lines (member : line ∈ lines text) : '\n' ∉ line := by
  induction text generalizing line with
  | nil => simp_all [lines]
  | cons c rest ih =>
      by_cases newline : c = '\n'
      · subst newline
        rw [lines_cons_newline] at member
        rcases List.mem_cons.mp member with rfl | member
        · exact List.not_mem_nil
        · exact ih member
      · obtain ⟨head, tail, cut⟩ := exists_lines rest
        rw [lines_cons_of_ne newline cut] at member
        rcases List.mem_cons.mp member with rfl | member
        · have unbroken := ih (by rw [cut]; exact List.mem_cons_self)
          simp [Ne.symm newline, unbroken]
        · exact ih (by rw [cut]; exact List.mem_cons_of_mem _ member)

theorem length_lines (text : List Char) : (lines text).length = text.count '\n' + 1 := by
  induction text with
  | nil => rfl
  | cons c rest ih =>
      by_cases newline : c = '\n'
      · subst newline
        simp [lines_cons_newline, ih]
      · obtain ⟨head, tail, cut⟩ := exists_lines rest
        rw [lines_cons_of_ne newline cut, List.count_cons_of_ne newline, ← ih, cut]
        rfl

theorem unlines_cons (first : List Char) (nonempty : pieces ≠ []) :
    unlines (first :: pieces) = first ++ '\n' :: unlines pieces := by
  obtain ⟨second, rest, rfl⟩ := List.exists_cons_of_ne_nil nonempty
  simp [unlines, joinWith]

theorem flatMap_lines (unbroken : ∀ piece ∈ pieces, '\n' ∉ piece) : pieces.flatMap lines = pieces := by
  induction pieces with
  | nil => rfl
  | cons first rest ih =>
      have own : lines first = [first] := lines_of_not_mem (unbroken first List.mem_cons_self)
      have others := ih fun piece member => unbroken piece (List.mem_cons_of_mem _ member)
      rw [List.flatMap_cons, own, others, List.singleton_append]

theorem lines_unlines_flatMap (nonempty : pieces ≠ []) :
    lines (unlines pieces) = pieces.flatMap lines := by
  induction pieces with
  | nil => exact absurd rfl nonempty
  | cons first rest ih =>
      by_cases last : rest = []
      · subst last
        exact (List.append_nil _).symm
      · rw [unlines_cons first last, lines_append_newline, ih last, List.flatMap_cons]

theorem lines_unlines (nonempty : pieces ≠ []) (unbroken : ∀ piece ∈ pieces, '\n' ∉ piece) :
    lines (unlines pieces) = pieces := by
  rw [lines_unlines_flatMap nonempty, flatMap_lines unbroken]

theorem unlines_lines (text : List Char) : unlines (lines text) = text := by
  induction text with
  | nil => rfl
  | cons c rest ih =>
      by_cases newline : c = '\n'
      · subst newline
        rw [lines_cons_newline, unlines_cons [] (lines_ne_nil rest), ih, List.nil_append]
      · obtain ⟨head, tail, cut⟩ := exists_lines rest
        rw [cut] at ih
        rw [lines_cons_of_ne newline cut, ← ih]
        cases tail <;> simp [unlines, joinWith]

theorem flatMap_newline {pieces : List (List Char)} (nonempty : pieces ≠ []) :
    pieces.flatMap (· ++ ['\n']) = unlines pieces ++ ['\n'] := by
  induction pieces with
  | nil => exact absurd rfl nonempty
  | cons first rest ih =>
      by_cases last : rest = []
      · subst last
        simp [unlines, joinWith]
      · rw [List.flatMap_cons, ih last, unlines_cons first last]
        simp

/-- Every text is labelled line by line. The empty label, which is left out, is no exception. -/
theorem labelLines_eq (label text : List Char) :
    labelLines label text = unlines ((lines (dropFinalNewline text)).map (label ++ ·)) := by
  unfold labelLines
  split
  · rename_i empty
    obtain rfl := List.isEmpty_iff.mp empty
    simp [unlines_lines]
  · rfl

/-- Every line of a labelled text is a line of the text with the label in front. -/
theorem lines_labelLines (unbroken : '\n' ∉ label) (text : List Char) :
    lines (labelLines label text) = (lines (dropFinalNewline text)).map (label ++ ·) := by
  rw [labelLines_eq]
  refine lines_unlines (by simp [lines_ne_nil]) ?_
  intro piece member
  obtain ⟨line, isLine, rfl⟩ := List.mem_map.mp member
  simp [unbroken, not_mem_of_mem_lines isLine]

theorem map_drop_label (label : List Char) (pieces : List (List Char)) :
    (pieces.map (label ++ ·)).map (List.drop label.length) = pieces := by
  have dropped : (List.drop label.length ∘ fun line => label ++ line) = id := by
    funext line
    simp
  rw [List.map_map, dropped, List.map_id]

theorem length_le_flatMap_lines (pieces : List (List Char)) :
    pieces.length ≤ (pieces.flatMap lines).length := by
  induction pieces with
  | nil => exact Nat.le_refl 0
  | cons first rest ih =>
      rw [List.flatMap_cons, List.length_append, length_lines, List.length_cons]
      omega

/-- Pieces make as many lines as they are exactly when no line breaks within them. -/
theorem length_flatMap_lines_iff :
    (pieces.flatMap lines).length = pieces.length ↔ ∀ piece ∈ pieces, '\n' ∉ piece := by
  refine ⟨fun counted => ?_, fun unbroken => by rw [flatMap_lines unbroken]⟩
  induction pieces with
  | nil => exact List.forall_mem_nil _
  | cons first rest ih =>
      have least := length_le_flatMap_lines rest
      rw [List.flatMap_cons, List.length_append, length_lines, List.length_cons] at counted
      exact List.forall_mem_cons.mpr ⟨List.count_eq_zero.mp (by omega), ih (by omega)⟩

/-- Two texts that go on with the same two characters, and are the same altogether: they are the
same before, or one goes on in its turn where the other has these characters. -/
theorem eq_or_isPrefix_of_marked {mark last : Char} (distinct : mark ≠ last)
    {first second rest more : List Char}
    (same : first ++ mark :: last :: rest = second ++ mark :: last :: more) :
    first = second ∨ first ++ [mark, last] <+: second ∨ second ++ [mark, last] <+: first := by
  induction first generalizing second with
  | nil =>
      match second with
      | [] => exact .inl rfl
      | [c] => exact absurd (List.cons.inj (List.cons.inj same).2).1.symm distinct
      | c :: d :: others =>
          obtain ⟨rfl, rest⟩ := List.cons.inj same
          obtain ⟨rfl, _⟩ := List.cons.inj rest
          exact .inr (.inl (List.prefix_append [mark, last] others))
  | cons c first ih =>
      cases second with
      | nil =>
          obtain ⟨rfl, rest⟩ := List.cons.inj same
          cases first with
          | nil => exact absurd (List.cons.inj rest).1 distinct
          | cons d others =>
              obtain ⟨rfl, _⟩ := List.cons.inj rest
              exact .inr (.inr (List.prefix_append [c, d] others))
      | cons d second =>
          obtain ⟨rfl, rest⟩ := List.cons.inj same
          rcases ih rest with same | begins | begins
          · exact .inl (congrArg _ same)
          · exact .inr (.inl (List.cons_prefix_cons.mpr ⟨rfl, begins⟩))
          · exact .inr (.inr (List.cons_prefix_cons.mpr ⟨rfl, begins⟩))

end Text

theorem writtenLines_append_newline (text : List Char) :
    writtenLines (text ++ ['\n']) = Text.lines text := by
  simp [writtenLines, Text.lines_append_newline, Text.lines]

theorem writtenLines_flatMap (pieces : List (List Char)) :
    writtenLines (pieces.flatMap (· ++ ['\n'])) = pieces.flatMap Text.lines := by
  have cut : Text.lines (pieces.flatMap (· ++ ['\n'])) = pieces.flatMap Text.lines ++ [[]] := by
    induction pieces with
    | nil => rfl
    | cons first rest ih =>
        rw [List.flatMap_cons, List.append_assoc, List.singleton_append,
          Text.lines_append_newline, ih, List.flatMap_cons, List.append_assoc]
  rw [writtenLines, cut, List.dropLast_concat]

theorem flatMap_writtenLines (text : List Char) :
    (writtenLines (text ++ ['\n'])).flatMap (· ++ ['\n']) = text ++ ['\n'] := by
  rw [writtenLines_append_newline, Text.flatMap_newline (Text.lines_ne_nil text), Text.unlines_lines]

end Telemetry
