import Telemetry.Proofs.Print.Accepted
import Telemetry.Proofs.Print.Labels
import Telemetry.Proofs.Render.Documents

/-!
A printed document gives its message back: without the labels its lines are a JSON text, and what is
read from the text is the message with its source.
-/

namespace Telemetry

open Json.Grammar (IsText)

/-- A text without so many characters at the beginning of each line. -/
def withoutLabels (label text : List Char) : List Char :=
  ((writtenLines text).map (List.drop label.length)).flatMap (· ++ ['\n'])

namespace Text

theorem isPrefix_of_mem_labelLines {label text line : List Char} (unbroken : '\n' ∉ label)
    (member : line ∈ writtenLines (labelLines label text ++ ['\n'])) : label <+: line := by
  rw [writtenLines_append_newline, lines_labelLines unbroken] at member
  obtain ⟨plain, _, rfl⟩ := List.mem_map.mp member
  exact List.prefix_append _ _

/-- Labels can be taken off a text again. -/
theorem withoutLabels_labelLines {label : List Char} (unbroken : '\n' ∉ label) (text : List Char) :
    withoutLabels label (labelLines label text ++ ['\n']) = dropFinalNewline text ++ ['\n'] := by
  rw [withoutLabels, writtenLines_append_newline, lines_labelLines unbroken, map_drop_label,
    flatMap_newline (lines_ne_nil _), unlines_lines]

end Text

namespace Json

theorem getLast?_spreadFields (indent : List Char) (depth : Nat) (fields : List (String × Json)) :
    (spreadFields indent depth fields).getLast? = some '\x7d' := by
  induction fields with
  | nil => simp [spreadFields]
  | cons field fields ih => simp [spreadFields, List.getLast?_cons, List.getLast?_append, ih]

theorem dropFinalNewline_spread (indent : List Char) (depth : Nat)
    (fields : List (String × Json)) :
    Text.dropFinalNewline (spread indent depth (.object fields)) =
      spread indent depth (.object fields) := by
  have last : (spread indent depth (.object fields)).getLast? = some '\x7d' := by
    cases fields with
    | nil => rfl
    | cons field fields =>
        simp [spread, List.getLast?_cons, List.getLast?_append, getLast?_spreadFields]
  rw [Text.dropFinalNewline, last, if_neg (by decide)]

end Json

/-- What a device has answered, if it is an answer. -/
def Message.payload? : Message → Option Json
  | .capabilities _ => none
  | .get content => some content
  | .set content => some content
  | .subscribe content => some content

namespace Print

variable {settings : PrintSettings} {call : PrintCall} {payload : Json} {label : List Char}

theorem newline_not_mem_lineLabel {source : String} (unbroken : '\n' ∉ source.toList)
    (settings : PrintSettings) (declared : Nat) :
    '\n' ∉ lineLabel settings declared source := by
  unfold lineLabel
  split
  · simp [sourceLabel, unbroken]
  · exact List.not_mem_nil

/-- The text of an answer in the JSON format. -/
theorem builtIn_eq (options : RenderOptions)
    (format : options.format = "" ∨ options.format = "json") {message : Message}
    (carries : message.payload? = some payload) (metadata : NameMap String) :
    Formatter.builtIn message options metadata =
      .ok (.text (Render.documentText payload options.multiline options.indent metadata)) := by
  have content : message.toJson = payload := by
    cases message <;> simp_all [Message.payload?, Message.toJson]
  rw [Render.builtIn_document format, content]

theorem laidOut?_eq_none (settings : PrintSettings) {message : Message}
    (carries : message.payload? = some payload) : laidOut? settings message = none := by
  cases message with
  | capabilities content => cases carries
  | _ => rfl

theorem contentText_eq (format : settings.format = "" ∨ settings.format = "json")
    (carries : call.message.payload? = some payload) (label : List Char) :
    contentText Formatter.builtIn.renderer settings call label =
      Text.labelLines label (Json.spread indent 0 (Render.document payload (metadata call.source))) ++
        ['\n'] := by
  have rendered := Formatter.renderer_ok
    (builtIn_eq (options settings) format carries (metadata call.source))
  simp only [contentText, contentPieces, laidOut?_eq_none settings carries, rendered]
  simp [Rendering.characters, Render.documentText, options]

/-- An answer in the JSON format is printed, unless a sink refuses it. -/
theorem print_ok (format : settings.format = "" ∨ settings.format = "json")
    (carries : call.message.payload? = some payload) (printing : Printing) :
    (printing.print .builtIn .none settings call).1 = .ok () := by
  have renders : rendering Formatter.builtIn.renderer settings call = .ok _ :=
    Formatter.renderer_ok (builtIn_eq (options settings) format carries (metadata call.source))
  obtain ⟨after, printed, _⟩ := Printing.quiet_print renders printing
  rw [Printing.print, printed]

end Print

namespace Render

variable {settings : PrintSettings} {call : PrintCall} {payload : Json}

theorem isBlank_indent : Json.Grammar.IsBlank Print.indent := by
  intro c member
  simp only [Print.indent, List.mem_cons, List.not_mem_nil, or_false, or_self] at member
  rw [member]
  exact List.mem_cons_self

theorem isBlank_newline : Json.Grammar.IsBlank ['\n'] := by
  intro c member
  rw [List.mem_singleton.mp member]
  decide

/-- The text is a JSON text, and the value is what is read from it. -/
def Spells (text : List Char) (payload value : Json) : Prop :=
  IsText text ∧ ∀ limit, payload.nesting < limit → Json.parse limit text = .ok value

theorem spells_laid {gaps : Json.Gaps} (blank : Json.Grammar.AreBlank gaps) (exact : payload.Exact)
    (source : String) {after : List Char} (blankAfter : Json.Grammar.IsBlank after) :
    Spells (Json.laid gaps 0 (document payload (Print.metadata source)) ++ after) payload
      (document payload (Print.metadata source)) := by
  have exactDocument := exact_document exact source
  refine ⟨Json.Grammar.isText_laid blank exactDocument 0 blankAfter, fun limit within => ?_⟩
  exact Json.parse_laid blank exactDocument
    (Nat.le_trans (nesting_document exact source) within) 0 blankAfter

/-- An answer without floating point numbers, in the JSON format, from a source without a line
break. The block that a successful print adds has whole lines that all begin with the label, and
without the labels it is a JSON text from which the answer with its source is read. So is the
answer's text on one line. -/
theorem printed_reads_back (faults : SinkFaults)
    (format : settings.format = "" ∨ settings.format = "json")
    (carries : call.message.payload? = some payload) (exact : payload.Exact)
    (unbroken : '\n' ∉ call.source.toList) (printing : Printing) :
    let label := Print.lineLabel settings printing.declared call.source
    let printed := printing.print .builtIn faults settings call
    let fields := (documentFields payload (Print.metadata call.source)).entries
    Holds payload call.source fields ∧
      (printed.1 = .ok () → ∃ block, printed.2.sinks.out = printing.sinks.out ++ block ∧
        block = (writtenLines block).flatMap (· ++ ['\n']) ∧
        (∀ line ∈ writtenLines block, label <+: line) ∧
        Spells (withoutLabels label block) payload (.object fields)) ∧
      (faults = .none → printed.1 = .ok ()) ∧
      ∃ text, Formatter.builtIn call.message { Print.options settings with multiline := false }
        (Print.metadata call.source) = .ok (.text text) ∧ Spells text payload (.object fields) := by
  intro label printed fields
  refine ⟨holds_document exact call.source, fun success => ?_, ?_, ?_⟩
  · have accepted : ¬ Printing.Refused faults printed.1 := by
      rintro ⟨sink, writes, fault, refused, failed⟩
      rw [success] at failed
      cases failed
    have unbrokenLabel : '\n' ∉ label := Print.newline_not_mem_lineLabel unbroken _ _
    have delivers := Printing.delivers_print Formatter.builtIn.renderer faults settings
      call printing
    obtain ⟨block, out, _, whole⟩ := delivers.content .out
    have text := whole accepted
    rw [Print.textOn_pieces, Print.contentText_eq format carries] at text
    -- The text ends in a brace, so no line break is left out at its end.
    refine ⟨block, out, ?_, ?_, ?_⟩
    · rw [text, flatMap_writtenLines]
    · rw [text]
      exact fun line member => Text.isPrefix_of_mem_labelLines unbrokenLabel member
    · rw [text, Text.withoutLabels_labelLines unbrokenLabel, document,
        Json.dropFinalNewline_spread, ← Json.laid_lines]
      exact spells_laid (Json.Grammar.areBlank_lines isBlank_indent) exact call.source
        isBlank_newline
  · rintro rfl
    exact Print.print_ok format carries printing
  · refine ⟨_, Print.builtIn_eq _ format carries _, ?_⟩
    have spells := spells_laid Json.Grammar.areBlank_none exact call.source Json.Grammar.isBlank_nil
    rw [Json.laid_none, List.append_nil] at spells
    exact spells

/-- An answer with a line break and quotes in a string, printed with labels. -/
theorem labelled_answer_reads_back :
    let settings : PrintSettings := ⟨"json", false, false⟩
    let payload : Json := .object
      [("mtu", .integer 1500), ("names", .array [.string "a\n\"b\"", .integer (-5)])]
    let printed := (Printing.start 2).print .builtIn .none settings ⟨"r1", "Get", .get payload⟩
    ∃ fields, Holds payload "r1" fields ∧
      (∀ line ∈ writtenLines printed.2.sinks.out, "[r1] ".toList <+: line) ∧
      Json.parse Json.readingDepth (withoutLabels "[r1] ".toList printed.2.sinks.out) =
        .ok (.object fields) := by
  intro settings payload
  dsimp only
  have exact : payload.Exact := by
    have order : "mtu" < "names" := by decide
    refine .object (List.pairwise_pair.mpr order) ?_
    simp only [List.mem_cons, List.not_mem_nil, or_false, forall_eq_or_imp, forall_eq]
    refine ⟨.integer (by decide), .array ?_⟩
    simp only [List.mem_cons, List.not_mem_nil, or_false, forall_eq_or_imp, forall_eq]
    exact ⟨.string _, .integer (by decide)⟩
  have label : Print.lineLabel settings 2 "r1" = "[r1] ".toList := by decide
  have reads := @printed_reads_back settings ⟨"r1", "Get", .get payload⟩ payload .none (.inr rfl) rfl
    exact (by decide) (Printing.start 2)
  obtain ⟨holds, added, succeeds, _⟩ := reads
  obtain ⟨block, out, _, labelled, spells⟩ := added (succeeds rfl)
  have empty : (Printing.start 2).sinks.out = [] := rfl
  have declared : (Printing.start 2).declared = 2 := rfl
  rw [empty, List.nil_append] at out
  rw [declared, label] at labelled spells
  rw [out]
  exact ⟨_, holds, labelled, spells.2 _ (by decide)⟩

end Render

end Telemetry
