import Telemetry.Proofs.Json.Leaves
import Telemetry.Proofs.Render.ReadingBack

/-!
How a rendered message names its source. The event format does so in a line of its own, whatever the
message says; in the JSON format a field of the message takes the place of the source.
-/

namespace Telemetry

theorem Model.ordered_toJson (model : Model) : model.toJson.Ordered := by
  have keys : ["name", "organization", "version"].Pairwise (· < ·) := by decide
  refine .object (List.pairwise_map.mp keys) ?_
  simp only [List.forall_mem_cons]
  exact ⟨.scalar rfl, .scalar rfl, .scalar rfl, by simp⟩

theorem Capabilities.ordered_toJson (content : Capabilities) : content.toJson.Ordered := by
  have keys : ["gnmi_version", "supported_encodings", "supported_models"].Pairwise (· < ·) := by
    decide
  refine .object (List.pairwise_map.mp keys) ?_
  simp only [List.forall_mem_cons]
  refine ⟨.scalar rfl, .array ?_, .array ?_, by simp⟩
  · exact List.forall_mem_map.mpr fun encoding _ => .scalar rfl
  · exact List.forall_mem_map.mpr fun model _ => model.ordered_toJson

/-- The tree of a message is as values are held when what the device answered is. -/
theorem Message.ordered_toJson {message : Message}
    (ordered : ∀ payload, message.payload? = some payload → payload.Ordered) :
    message.toJson.Ordered := by
  cases message with
  | capabilities content => exact content.ordered_toJson
  | _ => exact ordered _ rfl

namespace Render

open Json.Grammar (IsBlank)

variable {content : Json}

/-- The source in a document is what the message has under that name, if it has something there. -/
theorem source_of_document (ordered : content.Ordered) (source : String) :
    (documentFields content (Print.metadata source)).get? "source" =
      some ((content.child? (.key "source")).getD (.string source)) := by
  have fallback : ((Print.metadata source).mapWithName fun _ value => Json.string value).get?
      "source" = some (.string source) := rfl
  cases content with
  | object own =>
      cases ordered with
      | scalar scalar => cases scalar
      | object ascending _ =>
          rw [documentFields, NameMap.get?_foldl_insert ascending.names_nodup, fallback, Json.child?]
          cases findEntry "source" own <;> rfl
  | _ => exact (NameMap.get?_insert _ _ _ _).trans fallback

/-- The text of a document gives the document back. -/
theorem spells_documentText (exact : content.Exact) (source : String) (multiline : Bool)
    {indent : List Char} (blank : IsBlank indent) :
    Spells (documentText content multiline indent (Print.metadata source)) content
      (document content (Print.metadata source)) := by
  cases multiline with
  | true =>
      have spells := spells_laid (Json.Grammar.areBlank_lines blank) exact source
        Json.Grammar.isBlank_nil
      rwa [Json.laid_lines, List.append_nil] at spells
  | false =>
      have spells := spells_laid Json.Grammar.areBlank_none exact source Json.Grammar.isBlank_nil
      rwa [Json.laid_none, List.append_nil] at spells

/-- A message in the JSON format. The text is that of an object, which is read back from it; the
object has a source, and it is the true one exactly when the message itself has nothing else under
that name. What else it has there takes the place of the source. -/
theorem document_names_source_iff {message : Message}
    (ordered : ∀ payload, message.payload? = some payload → payload.Ordered)
    {options : RenderOptions} (format : options.format = "" ∨ options.format = "json")
    (source : String) :
    ∃ text, ∃ fields : NameMap Json,
      Formatter.builtIn message options (Print.metadata source) = .ok (.text text) ∧
      text = (if options.multiline then Json.spread options.indent 0 (.object fields.entries)
        else Json.inline (.object fields.entries)) ∧
      (message.toJson.Exact → IsBlank options.indent →
        Spells text message.toJson (.object fields.entries)) ∧
      fields.get? "source" =
        some ((message.toJson.child? (.key "source")).getD (.string source)) ∧
      (fields.get? "source" = some (.string source) ↔
        ∀ own, message.toJson.child? (.key "source") = some own → own = .string source) := by
  have named := source_of_document (Message.ordered_toJson ordered) source
  refine ⟨_, documentFields message.toJson (Print.metadata source),
    builtIn_document format message _, rfl, ?_, named, ?_⟩
  · exact fun exact blank => spells_documentText exact source options.multiline blank
  · rw [named]
    cases message.toJson.child? (.key "source") <;> simp

/-- An answer with a field beside the source, on several lines. -/
theorem answer_names_source :
    let message : Message := .get (.object [("mtu", .integer 1500), ("via", .string "r2")])
    ∃ text, Formatter.builtIn message ⟨true, [' '], "json"⟩ (Print.metadata "r1") =
        .ok (.text text) ∧
      ∃ fields : NameMap Json, fields.get? "source" = some (.string "r1") ∧
        Json.parse Json.readingDepth text = .ok (.object fields.entries) := by
  intro message
  have exact : message.toJson.Exact := by
    refine .object (List.pairwise_pair.mpr (by decide)) ?_
    simp only [List.forall_mem_cons]
    exact ⟨.integer (by decide), .string _, by simp⟩
  have ordered : ∀ payload, message.payload? = some payload → payload.Ordered := by
    rintro payload ⟨⟩
    decide
  have format : (RenderOptions.mk true [' '] "json").format = "" ∨
      (RenderOptions.mk true [' '] "json").format = "json" := .inr rfl
  obtain ⟨text, fields, rendered, _, spells, _, named⟩ :=
    document_names_source_iff ordered format "r1"
  have blank : IsBlank [' '] := by simp [IsBlank]
  have none : ∀ own, message.toJson.child? (.key "source") = some own → own = .string "r1" := by
    rintro own ⟨⟩
  exact ⟨text, rendered, fields, named.mpr none, (spells exact blank).2 _ (by decide)⟩

/-- An answer of one source that says it is of another. -/
theorem answer_names_other_source :
    let message : Message := .get (.object [("source", .string "r2")])
    Formatter.builtIn message ⟨false, [], "json"⟩ (Print.metadata "r1") =
        .ok (.text "\x7b\"source\":\"r2\"\x7d".toList) ∧
      (documentFields message.toJson (Print.metadata "r1")).get? "source" ≠
        some (.string "r1") := by
  refine ⟨rfl, fun named => ?_⟩
  have other : (documentFields (.object [("source", .string "r2")]) (Print.metadata "r1")).get?
      "source" = some (.string "r2") := rfl
  have same : some (Json.string "r2") = some (.string "r1") := other.symm.trans named
  simp at same

end Render

end Telemetry
