import Telemetry.Link.JsonForm
import Telemetry.Registry.Basic

/-!
The registry at a glance, as JSON: how far each live target has come, and the limit of its channel.
-/

namespace Telemetry

def TargetState.toJson : TargetState → Json
  | .pending => .string "pending"
  | .connecting => .string "connecting"
  | .connected => .string "connected"
  | .cancelled => .string "cancelled"
  | .failed reason => .object [("failed", .string reason)]

def LimitedChannel.toJson (channel : LimitedChannel) : Json :=
  .object [("limit", Json.ofOption sizeToJson channel.maxReceive)]

namespace Registry

def targetOverview (registry : Registry) (name : String) : Json :=
  .object [
    ("channel", Json.ofOption LimitedChannel.toJson (registry.channel? name)),
    ("state", Json.ofOption TargetState.toJson (registry.state? name))]

def overview (registry : Registry) : Json :=
  .object [
    ("count", Json.nat registry.count),
    ("targets", .object (registry.names.map fun name => (name, registry.targetOverview name)))]

end Registry

end Telemetry
