import Telemetry.Message.Basic

/-!
The layout of capabilities for a reader: the version, then the models and the encodings, one line
each, every line behind a label.
-/

namespace Telemetry.Capabilities

def modelLine (model : Model) : List Char :=
  ("  - " ++ model.name ++ ", " ++ model.organization ++ ", " ++ model.version).toList

def encodingLine (encoding : Encoding) : List Char := ("  - " ++ encoding.name).toList

def layoutLines (capabilities : Capabilities) : List (List Char) :=
  ("gNMI version: " ++ capabilities.version).toList :: "supported models:".toList ::
    (capabilities.models.map modelLine ++
      "supported encodings:".toList :: capabilities.encodings.map encodingLine)

/-- The lines, each with the label in front and ended by a newline. -/
def layout (label : List Char) (capabilities : Capabilities) : List Char :=
  (layoutLines capabilities).flatMap (fun line => label ++ line ++ ['\n'])

end Telemetry.Capabilities
