import Telemetry.Proofs.Json.Reading
import Telemetry.Print.Pipeline
import Telemetry.Render.Document

/-!
What the document of a message holds: the message and its source.
-/

namespace Telemetry

namespace Render

open Json (Exact)

/-- The fields of the document of a payload: those of the payload, and the source unless a field of
the payload has its name; a payload that is no object is a field of its own. -/
def Holds (payload : Json) (source : String) (fields : List (String × Json)) : Prop :=
  match payload with
  | .object own => Ascending fields ∧ (∀ entry ∈ own, entry ∈ fields) ∧
      ∀ entry ∈ fields, entry ∈ own ∨ entry = ("source", .string source)
  | other => fields = [("source", .string source), ("value", other)]

variable {payload : Json} {source : String} {fields : List (String × Json)}

/-- The text of a message in the JSON format is that of its document. -/
theorem builtIn_document {options : RenderOptions}
    (format : options.format = "" ∨ options.format = "json") (message : Message)
    (metadata : NameMap String) :
    Formatter.builtIn message options metadata =
      .ok (.text (documentText message.toJson options.multiline options.indent metadata)) := by
  simp only [Formatter.builtIn, if_pos format]

theorem entries_metadata (source : String) :
    ((Print.metadata source).mapWithName fun _ value => Json.string value).entries =
      [("source", .string source)] := rfl

theorem mem_documentFields_object {own : List (String × Json)} (ascending : Ascending own)
    (source : String) (entry : String × Json) :
    entry ∈ (documentFields (.object own) (Print.metadata source)).entries ↔
      entry ∈ own ∨
        (findEntry entry.1 own = none ∧ entry = ("source", .string source)) := by
  obtain ⟨name, value⟩ := entry
  have found : findEntry name own = some value ↔ (name, value) ∈ own :=
    ⟨mem_of_findEntry, findEntry_of_mem ascending⟩
  rw [NameMap.mem_entries, documentFields, NameMap.get?_foldl_insert ascending.names_nodup, NameMap.get?,
    entries_metadata, findEntry_cons, ← found]
  cases findEntry name own with
  | some other => simp
  | none =>
      by_cases isSource : name = "source"
      · simp [isSource, eq_comm]
      · simp [isSource, findEntry]

theorem holds_document (exact : payload.Exact) (source : String) :
    Holds payload source (documentFields payload (Print.metadata source)).entries := by
  cases exact with
  | @object own ascending each =>
      have member := mem_documentFields_object ascending source
      refine ⟨NameMap.ascending _, fun entry isOwn => (member entry).mpr (.inl isOwn), ?_⟩
      intro entry isField
      rcases (member entry).mp isField with isOwn | ⟨_, isSource⟩
      · exact .inl isOwn
      · exact .inr isSource
  | _ =>
      have order : "source" < contentKey := by decide
      refine insertEntry_last fun entry member => ?_
      rw [entries_metadata] at member
      rw [List.mem_singleton.mp member]
      exact order

theorem value_of_mem_document (holds : Holds payload source fields) {entry : String × Json}
    (member : entry ∈ fields) :
    entry.2 = .string source ∨ entry.2 = payload ∨
      ∃ own, payload = .object own ∧ entry ∈ own := by
  cases payload with
  | object own =>
      rcases holds.2.2 entry member with isOwn | rfl
      · exact .inr (.inr ⟨own, rfl, isOwn⟩)
      · exact .inl rfl
  | _ =>
      have listed : fields = [("source", .string source), ("value", _)] := holds
      rw [listed] at member
      rcases List.mem_cons.mp member with rfl | member
      · exact .inl rfl
      · exact .inr (.inl (by rw [List.mem_singleton.mp member]))

theorem exact_document (exact : payload.Exact) (source : String) :
    (document payload (Print.metadata source)).Exact := by
  refine .object (NameMap.ascending _) fun entry member => ?_
  rcases value_of_mem_document (holds_document exact source) member with
    text | whole | ⟨own, isObject, isOwn⟩
  · rw [text]
    exact .string source
  · rw [whole]
    exact exact
  · subst isObject
    cases exact with
    | object _ each => exact each entry isOwn

theorem nesting_document (exact : payload.Exact) (source : String) :
    (document payload (Print.metadata source)).nesting ≤ payload.nesting + 1 := by
  refine Nat.succ_le_succ (Json.nestingFields_le fun entry member => ?_)
  rcases value_of_mem_document (holds_document exact source) member with
    text | whole | ⟨own, isObject, isOwn⟩
  · rw [text]
    exact Nat.zero_le _
  · exact Nat.le_of_eq (congrArg Json.nesting whole)
  · have within := Json.nesting_le_nestingFields isOwn
    rw [isObject, Json.nesting]
    omega

end Render

end Telemetry
