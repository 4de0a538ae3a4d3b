import Telemetry.Json.Typed
import Telemetry.Link.Dialing

/-!
The JSON forms of dial options and of what they add up to.
-/

namespace Telemetry

open Json

def limitField : String := "max_recv_msg_size"

def sizeToJson (size : UInt64) : Json := Json.nat size.toNat

namespace DialOption

def toJson : DialOption → Json
  | .block => .string "block"
  | .noProxy => .string "no_proxy"
  | .maxReceive size => .object [(limitField, sizeToJson size)]

def ofJson : Json → Except Mismatch DialOption
  | .string "block" => .ok .block
  | .string "no_proxy" => .ok .noProxy
  | .object [(_, size)] => (readWord "usize" size).map .maxReceive
  | value => wrongKind value "a dial option"

end DialOption

namespace Dialing

def toJson (dialing : Dialing) : Json :=
  .object [
    ("block", .bool dialing.block),
    (limitField, Json.ofOption sizeToJson dialing.maxReceive),
    ("proxy_from_env", .bool dialing.proxyFromEnvironment)]

def jsonFields : List (RecordField Json Mismatch Dialing) := [
  recordField "block" readBool fun value d => { d with block := value },
  recordField limitField (readOption (readWord "usize")) fun value d =>
    { d with maxReceive := value },
  recordField "proxy_from_env" readBool fun value d => { d with proxyFromEnvironment := value }]

/-- Reads dial settings in which a missing part is off. -/
def ofJson : Json → Except Mismatch Dialing :=
  readRecord "DialSettings" jsonFields ⟨false, none, false⟩

end Dialing

end Telemetry
