import Telemetry.Error
import Telemetry.Message.JsonForm
import Telemetry.Render.Document
import Telemetry.Render.Event
import Telemetry.Text.Utf8

/-!
Formatters turn messages into text. The built-in one knows the JSON format, which the empty name
stands for as well, and the event format.
-/

namespace Telemetry

/-- How a message is to be rendered. -/
structure RenderOptions where
  multiline : Bool
  indent : List Char
  /-- Name of the format. -/
  format : String
deriving DecidableEq, Repr

/-- What a formatter hands over: text, or bytes that are to be read as text. -/
inductive Rendering where
  | text (characters : List Char)
  | bytes (bytes : List UInt8)
deriving DecidableEq, Repr

/-- The text that was handed over; bytes that spell none are replaced. -/
def Rendering.characters : Rendering → List Char
  | .text given => given
  | .bytes given => Text.Utf8.decodeLossy given

/-- Renders a message in a format, with metadata where the format has room for it. -/
abbrev Formatter := Message → RenderOptions → NameMap String → Except FormatError Rendering

/-- A formatter as prints see it: it may fail for any reason of the collector. -/
abbrev Renderer := Message → RenderOptions → NameMap String → Except Error Rendering

namespace Formatter

def renderer (formatter : Formatter) : Renderer := fun message options metadata =>
  (formatter message options metadata).mapError .format

def builtIn : Formatter := fun message options metadata =>
  let content := message.toJson
  if options.format = "" ∨ options.format = "json" then
    .ok (.text (Render.documentText content options.multiline options.indent metadata))
  else if options.format = "event" then
    .ok (.text (Render.event content options.multiline metadata))
  else .error (.unsupported options.format)

end Formatter

end Telemetry
