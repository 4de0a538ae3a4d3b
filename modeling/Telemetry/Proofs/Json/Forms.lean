import Telemetry.Declaration.JsonForm
import Telemetry.Json.Access
import Telemetry.Message.JsonForm
import Telemetry.Message.Layout
import Telemetry.Proofs.Json.Typed

/-!
The JSON forms of declarations and of capabilities, with all that is in them: what is written is
read back, and encodings go by the same names in the form and in the layout.
-/

namespace Telemetry

open Json

theorem Settings.roundTrip : RoundTrip Settings.toJson Settings.ofJson :=
  .ofRecord "GlobalSettings" (fun _ => by simp only [List.map]; decide) fun _ =>
    .cons "api" .string rfl rfl <|
    .cons "debug" .bool rfl rfl <|
    .cons "format" .string rfl rfl <|
    .cons "insecure" .bool rfl rfl <|
    .cons "log" .bool rfl rfl <|
    .cons "log_file" .string rfl rfl <|
    .cons "max_msg_size" (.word "usize") rfl rfl <|
    .cons "no_prefix" .bool rfl rfl <|
    .cons "password" (.option .string nofun) rfl rfl <|
    .cons "proxy_from_env" .bool rfl rfl <|
    .cons "skip_verify" .bool rfl rfl <|
    .cons "timeout_in_ms" (.word "u64") rfl rfl <|
    .cons "username" (.option .string nofun) rfl rfl .nil

theorem Target.roundTrip : RoundTrip Target.toJson Target.ofJson :=
  .ofRecord "TargetConfig" (fun _ => by simp only [List.map]; decide) fun _ =>
    .cons "address" .string rfl rfl <|
    .cons "insecure" (.option .bool nofun) rfl rfl <|
    .cons "name" .string rfl rfl <|
    .cons "password" (.option .string nofun) rfl rfl <|
    .cons "skip_verify" (.option .bool nofun) rfl rfl <|
    .cons "subscriptions" (.list .string) rfl rfl <|
    .cons "timeout_in_ms" (.option (.word "u64") nofun) rfl rfl <|
    .cons "tls_ca" (.option .string nofun) rfl rfl <|
    .cons "username" (.option .string nofun) rfl rfl .nil

theorem Declaration.roundTrip : RoundTrip Declaration.toJson Declaration.ofJson :=
  .ofRecord "CollectorConfig" (fun _ => by simp only [List.map]; decide) fun _ =>
    .cons "global" Settings.roundTrip rfl rfl <|
    .cons "targets" (.map Target.roundTrip) rfl rfl .nil

theorem Encoding.roundTrip : RoundTrip Encoding.toJson Encoding.ofJson where
  exact _ := .string _
  back encoding := by cases encoding <;> rfl

/-- In JSON an encoding goes by the name that a layout gives it. -/
theorem Encoding.jsonName_eq (encoding : Encoding) : encoding.jsonName = encoding.name := by
  cases encoding <;> decide

theorem Model.roundTrip : RoundTrip Model.toJson Model.ofJson :=
  .ofComplete "ModelData" (fun _ => by simp only [List.map]; decide)
    (fun _ =>
      .cons "name" .string rfl rfl <|
      .cons "organization" .string rfl rfl <|
      .cons "version" .string rfl rfl .nil)
    fun _ => rfl

namespace Capabilities

theorem roundTrip : RoundTrip Capabilities.toJson Capabilities.ofJson :=
  .ofComplete "CapabilityResponse" (fun _ => by simp only [List.map]; decide)
    (fun _ =>
      .cons "gnmi_version" .string rfl rfl <|
      .cons "supported_encodings" (.list Encoding.roundTrip) rfl rfl <|
      .cons "supported_models" (.list Model.roundTrip) rfl rfl .nil)
    fun _ => rfl

theorem encodingLine_eq (encoding : Encoding) :
    encodingLine encoding = ("  - " ++ encoding.jsonName).toList := by
  rw [encodingLine, encoding.jsonName_eq]

/-- The encodings come last in a layout, in their order. -/
theorem layout_encodings (label : List Char) (content : Capabilities) :
    content.layout label = { content with encodings := [] }.layout label ++
      content.encodings.flatMap fun encoding => label ++ encodingLine encoding ++ ['\n'] := by
  simp [layout, layoutLines, List.flatMap_append, List.flatMap_map]

end Capabilities

/-- Declarations and capabilities come back from their JSON forms as they were, whatever texts,
numbers and unset parts there are in them; and for the encodings of capabilities a formatter finds
those names in the JSON form, in that order, that are laid out for a reader. -/
theorem json_forms_read_back :
    (∀ declaration : Declaration, declaration.toJson.Exact ∧
      Declaration.ofJson declaration.toJson = .ok declaration) ∧
    ∀ content : Capabilities, content.toJson.Exact ∧
      Capabilities.ofJson content.toJson = .ok content ∧
      ∃ names : List String,
        (Message.capabilities content).toJson.field "supported_encodings" = Json.strings names ∧
        ∀ label : List Char, content.layout label =
          { content with encodings := [] }.layout label ++
            names.flatMap fun name => label ++ ("  - " ++ name).toList ++ ['\n'] := by
  refine ⟨fun declaration => ⟨Declaration.roundTrip.exact declaration,
    Declaration.roundTrip.back declaration⟩, fun content =>
    ⟨Capabilities.roundTrip.exact content, Capabilities.roundTrip.back content,
      content.encodings.map Encoding.jsonName, ?written, fun label => ?laidOut⟩⟩
  case written =>
    show Json.array (content.encodings.map Encoding.toJson) = _
    rw [Json.strings, List.map_map]
    rfl
  case laidOut =>
    rw [Capabilities.layout_encodings, List.flatMap_map]
    simp only [Capabilities.encodingLine_eq]

end Telemetry
