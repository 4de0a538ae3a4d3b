import Telemetry.Json.Value

/-!
Telemetry messages: what devices answer, and the feature set that a device advertises.
-/

namespace Telemetry

/-- Encodings of payloads. -/
inductive Encoding where
  | json
  | bytes
  | proto
  | ascii
  | jsonIetf
deriving DecidableEq, Repr

namespace Encoding

/-- The name of an encoding in a layout. -/
def name : Encoding → String
  | .json => "JSON"
  | .bytes => "BYTES"
  | .proto => "PROTO"
  | .ascii => "ASCII"
  | .jsonIetf => "JSON_IETF"

def all : List Encoding := [.json, .bytes, .proto, .ascii, .jsonIetf]

end Encoding

/-- A schema model that a device supports. -/
structure Model where
  name : String
  organization : String
  version : String
deriving DecidableEq, Repr

/-- The feature set that a device advertises. -/
structure Capabilities where
  models : List Model
  encodings : List Encoding
  version : String
deriving DecidableEq, Repr

inductive Message where
  | capabilities (content : Capabilities)
  | get (content : Json)
  | set (content : Json)
  | subscribe (content : Json)

namespace Message

/-- The label that stands above a message unless its source gives another. -/
def label : Message → String
  | .capabilities _ => "Capabilities Response"
  | .get _ => "Get Response"
  | .set _ => "Set Response"
  | .subscribe _ => "Subscribe Response"

/-- Whether a message has a layout of its own. -/
def hasLayout : Message → Bool
  | .capabilities _ => true
  | _ => false

end Message

end Telemetry
