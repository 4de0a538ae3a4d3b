import Telemetry.Proofs.Print.Labels

/-!
The lines in which capabilities are laid out: one for each thing there is to say, every one behind
the label, exactly when neither the label nor a text that the device gave has a line break in it.
-/

namespace Telemetry

namespace Capabilities

/-- The texts that a device gave have no line breaks in them. -/
structure IsUnbroken (content : Capabilities) : Prop where
  version : '\n' ∉ content.version.toList
  models : ∀ model ∈ content.models,
    '\n' ∉ model.name.toList ∧ '\n' ∉ model.organization.toList ∧ '\n' ∉ model.version.toList

/-- How many things a layout says: the version, the models and the encodings, each of the latter two
under a heading. -/
def lineCount (content : Capabilities) : Nat :=
  3 + content.models.length + content.encodings.length

/-- A text of whole lines, one for each thing to say, that all begin with the label. -/
structure IsLaidOut (label : List Char) (content : Capabilities) (text : List Char) : Prop where
  ended : text = (writtenLines text).flatMap (· ++ ['\n'])
  counted : (writtenLines text).length = content.lineCount
  labelled : ∀ line ∈ writtenLines text, label <+: line

variable {label : List Char} {content : Capabilities}

theorem length_layoutLines (content : Capabilities) :
    content.layoutLines.length = content.lineCount := by
  simp only [layoutLines, lineCount, List.length_cons, List.length_append, List.length_map]
  omega

theorem newline_not_mem_modelLine {model : Model} :
    '\n' ∉ modelLine model ↔
      '\n' ∉ model.name.toList ∧ '\n' ∉ model.organization.toList ∧ '\n' ∉ model.version.toList := by
  simp [modelLine]

theorem newline_not_mem_encodingLine (encoding : Encoding) : '\n' ∉ encodingLine encoding := by
  cases encoding <;> decide

theorem hasWholeLines_iff : content.HasWholeLines ↔ content.IsUnbroken := by
  have first : '\n' ∉ ("gNMI version: " ++ content.version).toList ↔
      '\n' ∉ content.version.toList := by simp
  simp only [HasWholeLines, layoutLines, List.forall_mem_cons, List.forall_mem_append,
    List.forall_mem_map, newline_not_mem_modelLine, first]
  constructor
  · rintro ⟨version, _, models, _⟩
    exact ⟨version, models⟩
  · rintro ⟨version, models⟩
    exact ⟨version, by decide, models, by decide, fun encoding _ =>
      newline_not_mem_encodingLine encoding⟩

theorem layoutLines_ne_nil (content : Capabilities) : content.layoutLines ≠ [] :=
  List.cons_ne_nil _ _

/-- The lines that are written are those that were laid out, with the label in front, cut at the
breaks within them. -/
theorem writtenLines_layout_eq (label : List Char) (content : Capabilities) :
    writtenLines (content.layout label) =
      (content.layoutLines.map (label ++ ·)).flatMap Text.lines := by
  rw [writtenLines_layout, List.flatMap_map]

theorem length_writtenLines_layout_iff :
    (writtenLines (content.layout label)).length = content.lineCount ↔
      '\n' ∉ label ∧ content.IsUnbroken := by
  obtain ⟨line, more, lines⟩ := List.exists_cons_of_ne_nil (layoutLines_ne_nil content)
  have pieces : (content.layoutLines.map (label ++ ·)).length = content.lineCount := by
    rw [List.length_map, length_layoutLines]
  rw [writtenLines_layout_eq, ← pieces, Text.length_flatMap_lines_iff, ← hasWholeLines_iff,
    HasWholeLines, lines]
  simp only [List.forall_mem_map, List.mem_append, not_or]
  exact ⟨fun each => ⟨(each line List.mem_cons_self).1, fun one member => (each one member).2⟩,
    fun whole one member => ⟨whole.1, whole.2 one member⟩⟩

/-- A layout is one line for each thing to say, behind the label, unless a line breaks. -/
theorem isLaidOut_iff :
    content.IsLaidOut label (content.layout label) ↔ '\n' ∉ label ∧ content.IsUnbroken := by
  refine ⟨fun laidOut => length_writtenLines_layout_iff.mp laidOut.counted, fun unbroken => ?_⟩
  have pieces : ∀ piece ∈ content.layoutLines.map (label ++ ·), '\n' ∉ piece := by
    simp only [List.forall_mem_map, List.mem_append, not_or]
    exact fun line member => ⟨unbroken.1, hasWholeLines_iff.mpr unbroken.2 line member⟩
  have lines : writtenLines (content.layout label) = content.layoutLines.map (label ++ ·) := by
    rw [writtenLines_layout_eq, Text.flatMap_lines pieces]
  refine ⟨?_, length_writtenLines_layout_iff.mpr unbroken, ?_⟩
  · rw [lines, layout_eq]
  · rw [lines]
    simp

end Capabilities

namespace Print

/-- The name of one source goes on, where the other ends, like the end of a label. -/
def Overlap (source other : String) : Prop :=
  source.toList ++ [']', ' '] <+: other.toList ∨ other.toList ++ [']', ' '] <+: source.toList

instance (source other : String) : Decidable (Overlap source other) :=
  inferInstanceAs (Decidable (_ ∨ _))

/-- A line that begins with the labels of two sources. -/
theorem eq_or_overlap_of_sourceLabel {source other : String} {line : List Char}
    (own : sourceLabel source <+: line) (others : sourceLabel other <+: line) :
    other = source ∨ Overlap source other := by
  obtain ⟨rest, rfl⟩ := own
  obtain ⟨more, same⟩ := others
  have marked : source.toList ++ ']' :: ' ' :: rest = other.toList ++ ']' :: ' ' :: more := by
    simpa [sourceLabel] using same.symm
  rcases Text.eq_or_isPrefix_of_marked (by decide) marked with same | begins | begins
  · exact .inl (String.toList_inj.mp same.symm)
  · exact .inr (.inl begins)
  · exact .inr (.inr begins)

theorem laidOut?_eq {settings : PrintSettings} (noFormat : settings.format = "")
    (content : Capabilities) : laidOut? settings (.capabilities content) = some content := by
  simp [laidOut?, usesLayout, noFormat, Message.hasLayout]

theorem lineLabel_eq {settings : PrintSettings} (labels : settings.noLabels = false)
    {declared : Nat} (several : 1 < declared) (source : String) :
    lineLabel settings declared source = sourceLabel source := by
  simp [lineLabel, labels, several]

end Print

namespace Printing

open Print

variable {settings : PrintSettings} {printing : Printing} {content : Capabilities}

/-- A print of capabilities in their layout gives the layout to its sink in one piece. -/
theorem layout_in_one_piece (noFormat : settings.format = "") (renderer : Renderer)
    (faults : SinkFaults) (source title : String) (content : Capabilities)
    (printing : Printing) :
    ∃ block, (printing.printWith renderer faults settings
        ⟨source, title, .capabilities content⟩).2.sinks.out = printing.sinks.out ++ block ∧
      (block = [] ∨ block = content.layout (lineLabel settings printing.declared source)) ∧
      (faults = .none → block ≠ []) := by
  obtain ⟨accepted, wrote, complete⟩ := delivers_print renderer faults settings
    ⟨source, title, .capabilities content⟩ printing
  have all : pieces renderer settings ⟨source, title, .capabilities content⟩ printing.declared =
      [(.header, title.toList), (.header, ['\n']),
        (.out, content.layout (lineLabel settings printing.declared source))] := by
    simp only [pieces, contentPieces, laidOut?_eq noFormat]
    rfl
  have nonempty : content.layout (lineLabel settings printing.declared source) ≠ [] := by
    simp [Capabilities.layout, Capabilities.layoutLines]
  rw [all] at wrote complete
  refine ⟨_, wrote.content .out, ?_, ?_⟩
  · by_cases enough : 3 ≤ accepted
    · refine .inr ?_
      rw [List.take_of_length_le enough]
      simp
    · obtain rfl | rfl | rfl : accepted = 0 ∨ accepted = 1 ∨ accepted = 2 := by omega
      all_goals exact .inl rfl
  · rintro rfl
    have enough : 3 ≤ accepted := by
      rcases complete with enough | ⟨_, _, _, refused, _⟩
      · exact enough
      · cases refused
    rw [List.take_of_length_le enough]
    simp [nonempty]

/-- No line of a layout that is printed with labels passes for one of another source. -/
theorem line_of_source {source : String} {line : List Char} (unbroken : '\n' ∉ source.toList)
    (own : content.IsUnbroken)
    (member : line ∈ writtenLines (content.layout (sourceLabel source))) :
    sourceLabel source <+: line ∧
      ∀ other, sourceLabel other <+: line → other = source ∨ Overlap source other := by
  have label : '\n' ∉ sourceLabel source := by simp [sourceLabel, unbroken]
  have begins := (Capabilities.isLaidOut_iff.mpr ⟨label, own⟩).labelled line member
  exact ⟨begins, fun _ others => eq_or_overlap_of_sourceLabel begins others⟩

/-- Capabilities in their layout. It has one whole line for each thing there is to say, and each
begins with the label, exactly when there is no line break in the label or in a text that the device
gave. So is what a print with labels writes, be the sinks as they may, if it writes anything; its
lines then are no other source's, unless the one name goes on where the other ends like the end of a
label. -/
theorem capabilities_labelled_iff (content : Capabilities) :
    (∀ label, content.IsLaidOut label (content.layout label) ↔
      '\n' ∉ label ∧ content.IsUnbroken) ∧
    ∀ (renderer : Renderer) (faults : SinkFaults) (settings : PrintSettings)
      (source title : String) (printing : Printing), settings.format = "" →
      settings.noLabels = false → 1 < printing.declared →
      ∃ block, (printing.printWith renderer faults settings
          ⟨source, title, .capabilities content⟩).2.sinks.out = printing.sinks.out ++ block ∧
        (faults = .none → block ≠ []) ∧
        (block ≠ [] → (content.IsLaidOut (sourceLabel source) block ↔
          '\n' ∉ source.toList ∧ content.IsUnbroken)) ∧
        ('\n' ∉ source.toList → content.IsUnbroken → ∀ line ∈ writtenLines block,
          sourceLabel source <+: line ∧
            ∀ other, sourceLabel other <+: line → other = source ∨ Overlap source other) := by
  refine ⟨fun label => Capabilities.isLaidOut_iff, ?_⟩
  intro renderer faults settings source title printing noFormat labels several
  obtain ⟨block, out, whole, written⟩ := layout_in_one_piece noFormat renderer faults source title
    content printing
  rw [lineLabel_eq labels several] at whole
  refine ⟨block, out, written, fun nonempty => ?_, fun unbroken own line member => ?_⟩
  · have label : '\n' ∉ sourceLabel source ↔ '\n' ∉ source.toList := by simp [sourceLabel]
    rw [whole.resolve_left nonempty, Capabilities.isLaidOut_iff, label]
  · rcases whole with rfl | rfl
    · cases member
    · exact line_of_source unbroken own member

/-- Capabilities with a model, of a source whose name has a bracket in it. -/
theorem bracketed_source_labelled :
    let content : Capabilities := ⟨[⟨"interfaces", "OpenConfig", "2.4.3"⟩], [.json], "0.8.0"⟩
    let printed := (start 2).printWith Formatter.builtIn.renderer .none ⟨"", false, false⟩
      ⟨"r[1]", "Capabilities", .capabilities content⟩
    (writtenLines printed.2.sinks.out).length = 5 ∧
      ∀ line ∈ writtenLines printed.2.sinks.out,
        "[r[1]] ".toList <+: line ∧ ¬ "[r] ".toList <+: line := by
  intro content printed
  have unbroken : content.IsUnbroken := ⟨by decide, by decide⟩
  obtain ⟨block, out, written, laidOut, lines⟩ := (capabilities_labelled_iff content).2
    Formatter.builtIn.renderer .none ⟨"", false, false⟩ "r[1]" "Capabilities" (start 2) rfl rfl
    (by decide)
  have all : printed.2.sinks.out = block := out
  have isLaidOut := (laidOut (written rfl)).mpr ⟨by decide, unbroken⟩
  rw [all]
  refine ⟨isLaidOut.counted, fun line member => ?_⟩
  obtain ⟨own, others⟩ := lines (by decide) unbroken line member
  refine ⟨own, fun other => ?_⟩
  have distinct : ¬ ("r" = "r[1]" ∨ Overlap "r[1]" "r") := by decide
  exact distinct (others "r" other)

/-- A version with a line break in it, and behind it the label of another source. -/
theorem broken_version_passes_for_other :
    let content : Capabilities := ⟨[], [], "0.8.0\n[r2] gNMI version: 0.1.0"⟩
    ¬ content.IsLaidOut "[r1] ".toList (content.layout "[r1] ".toList) ∧
      writtenLines ((start 2).printWith Formatter.builtIn.renderer .none ⟨"", false, false⟩
          ⟨"r1", "Capabilities", .capabilities content⟩).2.sinks.out =
        ["[r1] gNMI version: 0.8.0".toList, "[r2] gNMI version: 0.1.0".toList,
          "[r1] supported models:".toList, "[r1] supported encodings:".toList] := by
  refine ⟨fun laidOut => ?_, by decide +kernel⟩
  exact absurd laidOut.counted (by decide +kernel)

end Printing

end Telemetry
