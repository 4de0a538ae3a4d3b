import Telemetry.Json.Typed
import Telemetry.Message.Basic
import Telemetry.Text.Outline

/-!
The JSON forms of capabilities, all of whose fields are required, and the tree that formatters see
of a message.
-/

namespace Telemetry

open Json

namespace Encoding

/-- The name of an encoding in outlines. -/
def outlineName : Encoding → String
  | .json => "Json"
  | .bytes => "Bytes"
  | .proto => "Proto"
  | .ascii => "Ascii"
  | .jsonIetf => "JsonIetf"

/-- The name of an encoding in JSON: that in outlines, all in capitals, with an underscore in front
of each word but the first. -/
def jsonName (encoding : Encoding) : String :=
  String.ofList (match encoding.outlineName.toList with
    | [] => []
    | first :: rest =>
        first.toUpper :: rest.flatMap (fun c => if c.isUpper then ['_', c] else [c.toUpper]))

def ofJsonName? (name : String) : Option Encoding :=
  all.find? (fun encoding => encoding.jsonName == name)

def toJson (encoding : Encoding) : Json := .string encoding.jsonName

def ofKnownName (name : String) : Except Mismatch Encoding :=
  match ofJsonName? name with
  | some encoding => .ok encoding
  | none => .error (.unknownVariant name (all.map jsonName))

/-- An encoding is given by its name, or by an object whose only key is its name. -/
def ofJson : Json → Except Mismatch Encoding
  | .string name => ofKnownName name
  | .object [(name, value)] =>
      match ofKnownName name, value with
      | .error reason, _ => .error reason
      | .ok encoding, .null => .ok encoding
      | .ok _, value => wrongKind value "unit"
  | .object _ => .error (.wrongValue "map" "map with a single key")
  | value => wrongKind value "string or map"

end Encoding

/-- The fields of a model as far as they have been read. -/
structure ModelDraft where
  name : Option String
  organization : Option String
  version : Option String

namespace Model

def toJson (model : Model) : Json :=
  .object [
    ("name", .string model.name),
    ("organization", .string model.organization),
    ("version", .string model.version)]

def jsonFields : List (RecordField Json Mismatch ModelDraft) := [
  recordField "name" readString fun value d => { d with name := some value },
  recordField "organization" readString fun value d => { d with organization := some value },
  recordField "version" readString fun value d => { d with version := some value }]

def ofDraft (draft : ModelDraft) : Except String Model :=
  match draft.name, draft.organization, draft.version with
  | some name, some organization, some version => .ok ⟨name, organization, version⟩
  | none, _, _ => .error "name"
  | _, none, _ => .error "organization"
  | _, _, none => .error "version"

def ofJson : Json → Except Mismatch Model :=
  readComplete "ModelData" jsonFields ⟨none, none, none⟩ ofDraft

def outline (model : Model) : Text.Outline :=
  .record "ModelData" [
    ("name", .text model.name),
    ("organization", .text model.organization),
    ("version", .text model.version)]

end Model

/-- The fields of capabilities as far as they have been read. -/
structure CapabilitiesDraft where
  models : Option (List Model)
  encodings : Option (List Encoding)
  version : Option String

namespace Capabilities

def toJson (capabilities : Capabilities) : Json :=
  .object [
    ("gnmi_version", .string capabilities.version),
    ("supported_encodings", .array (capabilities.encodings.map Encoding.toJson)),
    ("supported_models", .array (capabilities.models.map Model.toJson))]

def jsonFields : List (RecordField Json Mismatch CapabilitiesDraft) := [
  recordField "supported_models" (readList Model.ofJson) fun value d =>
    { d with models := some value },
  recordField "supported_encodings" (readList Encoding.ofJson) fun value d =>
    { d with encodings := some value },
  recordField "gnmi_version" readString fun value d => { d with version := some value }]

def ofDraft (draft : CapabilitiesDraft) : Except String Capabilities :=
  match draft.models, draft.encodings, draft.version with
  | some models, some encodings, some version => .ok ⟨models, encodings, version⟩
  | none, _, _ => .error "supported_models"
  | _, none, _ => .error "supported_encodings"
  | _, _, none => .error "gnmi_version"

def ofJson : Json → Except Mismatch Capabilities :=
  readComplete "CapabilityResponse" jsonFields ⟨none, none, none⟩ ofDraft

def outline (capabilities : Capabilities) : Text.Outline :=
  .record "CapabilityResponse" [
    ("supported_models", .list (capabilities.models.map Model.outline)),
    ("supported_encodings",
      .list (capabilities.encodings.map (fun encoding => .atom encoding.outlineName))),
    ("gnmi_version", .text capabilities.version)]

end Capabilities

/-- The tree that formatters see of a message. -/
def Message.toJson : Message → Json
  | .capabilities content => content.toJson
  | .get content => content
  | .set content => content
  | .subscribe content => content

end Telemetry
