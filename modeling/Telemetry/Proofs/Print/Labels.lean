import Telemetry.Proofs.Print.Pieces
import Telemetry.Proofs.Text.Lines

/-!
Labels before the lines of a printed text. A rendered text has the label before every line. The
layout of capabilities has it before every line that it sets, but not where a string in it breaks.
-/

namespace Telemetry

namespace Text

variable {label text : List Char}

theorem lines_append_of_not_mem (unbroken : '\n' ∉ label) {first : List Char}
    {rest : List (List Char)} (cut : lines text = first :: rest) :
    lines (label ++ text) = (label ++ first) :: rest := by
  induction label with
  | nil => exact cut
  | cons c more ih =>
      obtain ⟨other, others⟩ := List.ne_and_not_mem_of_not_mem_cons unbroken
      exact lines_cons_of_ne other.symm (ih others)

theorem not_mem_of_lines_append (unbroken : '\n' ∉ label) (nonempty : label ≠ [])
    (each : lines (label ++ text) = (lines text).map (label ++ ·)) : '\n' ∉ text := by
  obtain ⟨first, rest, cut⟩ := exists_lines text
  rw [lines_append_of_not_mem unbroken cut, cut, List.map_cons, List.cons.injEq] at each
  have alone : rest = [] := by
    cases rest with
    | nil => rfl
    | cons second others =>
        have same : second = label ++ second := (List.cons.inj each.2).1
        have sizes := congrArg List.length same
        rw [List.length_append] at sizes
        have := List.length_pos_iff.mpr nonempty
        omega
  have counted := length_lines text
  rw [cut, alone, List.length_singleton] at counted
  exact List.count_eq_zero.mp (by omega)

end Text

namespace Capabilities

theorem layout_eq (label : List Char) (content : Capabilities) :
    content.layout label = (content.layoutLines.map (label ++ ·)).flatMap (· ++ ['\n']) := by
  rw [layout, List.flatMap_map]

theorem writtenLines_layout (label : List Char) (content : Capabilities) :
    writtenLines (content.layout label) =
      content.layoutLines.flatMap fun line => Text.lines (label ++ line) := by
  rw [layout_eq, writtenLines_flatMap, List.flatMap_map]

/-- No line of the layout has a break in it. -/
def HasWholeLines (content : Capabilities) : Prop := ∀ line ∈ content.layoutLines, '\n' ∉ line

end Capabilities

namespace Print

variable {renderer : Renderer} {settings : PrintSettings} {call : PrintCall} {label : List Char}

theorem labelled_flatMap (unbroken : '\n' ∉ label) (nonempty : label ≠ [])
    {lines : List (List Char)}
    (each : lines.flatMap (fun line => Text.lines (label ++ line)) =
      (lines.flatMap Text.lines).map (label ++ ·)) : ∀ line ∈ lines, '\n' ∉ line := by
  induction lines with
  | nil => exact fun line member => by cases member
  | cons line lines ih =>
      obtain ⟨first, rest, cut⟩ := Text.exists_lines line
      rw [List.flatMap_cons, List.flatMap_cons, List.map_append] at each
      have sameLength : (Text.lines (label ++ line)).length =
          ((Text.lines line).map (label ++ ·)).length := by
        rw [Text.lines_append_of_not_mem unbroken cut, cut]
        simp
      obtain ⟨own, others⟩ := List.append_inj each sameLength
      intro other member
      rcases List.mem_cons.mp member with rfl | member
      · exact Text.not_mem_of_lines_append unbroken nonempty own
      · exact ih others other member

/-- A label with a break in it is before no line. -/
theorem not_labelled {printed plain : List (List Char)} (broken : '\n' ∈ label)
    (nonempty : plain ≠ []) (lines : ∀ line ∈ printed, '\n' ∉ line) :
    printed ≠ plain.map (label ++ ·) := by
  rintro rfl
  obtain ⟨line, rest, rfl⟩ := List.exists_cons_of_ne_nil nonempty
  exact lines (label ++ line) (by simp) (by simp [broken])

theorem layout_labelled_iff (label : List Char) (content : Capabilities) :
    writtenLines (content.layout label) = (writtenLines (content.layout [])).map (label ++ ·) ↔
      label = [] ∨ ('\n' ∉ label ∧ content.HasWholeLines) := by
  rw [Capabilities.writtenLines_layout, Capabilities.writtenLines_layout]
  simp only [List.nil_append]
  constructor
  · intro each
    by_cases empty : label = []
    · exact .inl empty
    · refine .inr ?_
      by_cases broken : '\n' ∈ label
      · refine absurd each (not_labelled broken ?_ ?_)
        · simp [Capabilities.layoutLines, Text.lines_ne_nil]
        · intro line member
          obtain ⟨_, _, isLine⟩ := List.mem_flatMap.mp member
          exact Text.not_mem_of_mem_lines isLine
      · exact ⟨broken, labelled_flatMap broken empty each⟩
  · rintro (rfl | ⟨unbroken, whole⟩)
    · simp
    · rw [List.map_flatMap]
      refine List.flatMap_congr fun line member => ?_
      have alone := Text.lines_of_not_mem (whole line member)
      rw [Text.lines_append_of_not_mem unbroken alone, alone]
      rfl

theorem labelLines_labelled_iff (label text : List Char) :
    Text.lines (Text.labelLines label text) =
        (Text.lines (Text.labelLines [] text)).map (label ++ ·) ↔
      label = [] ∨ '\n' ∉ label := by
  constructor
  · intro each
    by_contra neither
    obtain ⟨nonempty, broken⟩ := not_or.mp neither
    exact not_labelled (not_not.mp broken) (Text.lines_ne_nil _)
      (fun _ => Text.not_mem_of_mem_lines) each
  · rintro (rfl | unbroken)
    · simp
    · exact Text.lines_labelLines unbroken text

/-- The text that a print writes when its lines are labelled so. -/
def contentText (renderer : Renderer) (settings : PrintSettings) (call : PrintCall)
    (label : List Char) : List Char :=
  textOn .out (contentPieces renderer settings call label)

def outText (formatter : Formatter) (settings : PrintSettings) (call : PrintCall)
    (label : List Char) : List Char :=
  contentText formatter.renderer settings call label

theorem textOn_pieces (declared : Nat) :
    textOn .out (pieces renderer settings call declared) =
      contentText renderer settings call (lineLabel settings declared call.source) := by
  simp [pieces, headerPieces, contentText]

/-- The text is labelled throughout, if there is one. -/
theorem contentText_labelled_iff (label : List Char) :
    writtenLines (contentText renderer settings call label) =
        (writtenLines (contentText renderer settings call [])).map (label ++ ·) ↔
      contentText renderer settings call label = [] ∨ label = [] ∨
        ('\n' ∉ label ∧
          ∀ content, laidOut? settings call.message = some content → content.HasWholeLines) := by
  cases laidOut : laidOut? settings call.message with
  | some content =>
      have text : ∀ label, contentText renderer settings call label = content.layout label := by
        intro label
        simp [contentText, contentPieces, laidOut]
      have nonempty : content.layout label ≠ [] := by
        simp [Capabilities.layout, Capabilities.layoutLines]
      simp only [text, layout_labelled_iff, nonempty, false_or, Option.some.injEq, forall_eq']
  | none =>
      cases rendered : renderer call.message (options settings) (metadata call.source) with
      | ok rendering =>
          have text : ∀ label, contentText renderer settings call label =
              Text.labelLines label rendering.characters ++ ['\n'] := by
            intro label
            simp [contentText, contentPieces, laidOut, rendered]
          simp [text, writtenLines_append_newline, labelLines_labelled_iff]
      | error reason =>
          have text : ∀ label, contentText renderer settings call label = [] := by
            intro label
            simp only [contentText, contentPieces, laidOut, rendered]
            split <;> simp [echoPieces]
          simp [text, writtenLines, Text.lines]

end Print

end Telemetry
