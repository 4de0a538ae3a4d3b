import Telemetry.Json.Printer
import Telemetry.NameMap

/-!
The JSON format: one object that holds the metadata and the message. Fields of the message go in
place of metadata of the same name; a message that is no object stands under a name of its own.
-/

namespace Telemetry.Render

def contentKey : String := "value"

/-- The fields of the document of a message. -/
def documentFields (content : Json) (metadata : NameMap String) : NameMap Json :=
  let base := metadata.mapWithName (fun _ value => Json.string value)
  match content with
  | .object fields => fields.foldl (fun map field => map.insert field.1 field.2) base
  | content => base.insert contentKey content

def document (content : Json) (metadata : NameMap String) : Json :=
  .object (documentFields content metadata).entries

/-- The text of the document, on one line or with one element a line. -/
def documentText (content : Json) (multiline : Bool) (indent : List Char)
    (metadata : NameMap String) : List Char :=
  let value := document content metadata
  if multiline then Json.spread indent 0 value else Json.inline value

end Telemetry.Render
