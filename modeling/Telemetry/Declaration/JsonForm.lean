import Telemetry.Declaration.Basic
import Telemetry.Json.Typed

/-!
The JSON forms of settings, targets and declarations. Every field is written, an unset one as null;
in reading every field may be missing.
-/

namespace Telemetry

open Json

namespace Settings

def toJson (settings : Settings) : Json :=
  .object [
    ("api", .string settings.api),
    ("debug", .bool settings.debug),
    ("format", .string settings.format),
    ("insecure", .bool settings.insecure),
    ("log", .bool settings.log),
    ("log_file", .string settings.logFile),
    ("max_msg_size", Json.nat settings.maxMessageSize.toNat),
    ("no_prefix", .bool settings.noLabels),
    ("password", Json.ofOption .string settings.password),
    ("proxy_from_env", .bool settings.proxyFromEnvironment),
    ("skip_verify", .bool settings.skipVerify),
    ("timeout_in_ms", Json.nat settings.timeoutMs.toNat),
    ("username", Json.ofOption .string settings.username)]

def jsonFields : List (RecordField Json Mismatch Settings) := [
  recordField "format" readString fun value s => { s with format := value },
  recordField "no_prefix" readBool fun value s => { s with noLabels := value },
  recordField "debug" readBool fun value s => { s with debug := value },
  recordField "log" readBool fun value s => { s with log := value },
  recordField "log_file" readString fun value s => { s with logFile := value },
  recordField "max_msg_size" (readWord "usize") fun value s => { s with maxMessageSize := value },
  recordField "proxy_from_env" readBool fun value s => { s with proxyFromEnvironment := value },
  recordField "api" readString fun value s => { s with api := value },
  recordField "username" (readOption readString) fun value s => { s with username := value },
  recordField "password" (readOption readString) fun value s => { s with password := value },
  recordField "insecure" readBool fun value s => { s with insecure := value },
  recordField "skip_verify" readBool fun value s => { s with skipVerify := value },
  recordField "timeout_in_ms" (readWord "u64") fun value s => { s with timeoutMs := value }]

def ofJson : Json → Except Mismatch Settings :=
  readRecord "GlobalSettings" jsonFields Settings.default

end Settings

namespace Target

def toJson (target : Target) : Json :=
  .object [
    ("address", .string target.address),
    ("insecure", Json.ofOption .bool target.insecure),
    ("name", .string target.name),
    ("password", Json.ofOption .string target.password),
    ("skip_verify", Json.ofOption .bool target.skipVerify),
    ("subscriptions", Json.strings target.subscriptions),
    ("timeout_in_ms", Json.ofOption (fun ms => Json.nat ms.toNat) target.timeoutMs),
    ("tls_ca", Json.ofOption .string target.authorityFile),
    ("username", Json.ofOption .string target.username)]

def jsonFields : List (RecordField Json Mismatch Target) := [
  recordField "name" readString fun value t => { t with name := value },
  recordField "address" readString fun value t => { t with address := value },
  recordField "username" (readOption readString) fun value t => { t with username := value },
  recordField "password" (readOption readString) fun value t => { t with password := value },
  recordField "insecure" (readOption readBool) fun value t => { t with insecure := value },
  recordField "skip_verify" (readOption readBool) fun value t => { t with skipVerify := value },
  recordField "timeout_in_ms" (readOption (readWord "u64")) fun value t =>
    { t with timeoutMs := value },
  recordField "tls_ca" (readOption readString) fun value t => { t with authorityFile := value },
  recordField "subscriptions" (readList readString) fun value t =>
    { t with subscriptions := value }]

def ofJson : Json → Except Mismatch Target :=
  readRecord "TargetConfig" jsonFields Target.default

end Target

/-- The targets of a set under their names. -/
def TargetSet.toJson (targets : TargetSet) : Json :=
  .object (targets.mapWithName (fun _ target => target.toJson)).entries

namespace Declaration

def toJson (declaration : Declaration) : Json :=
  .object [
    ("global", declaration.settings.toJson),
    ("targets", TargetSet.toJson declaration.targets)]

def jsonFields : List (RecordField Json Mismatch Declaration) := [
  recordField "global" Settings.ofJson fun value d => { d with settings := value },
  recordField "targets" (readMap Target.ofJson) fun value d => { d with targets := value }]

def ofJson : Json → Except Mismatch Declaration :=
  readRecord "CollectorConfig" jsonFields Declaration.default

end Declaration

end Telemetry
