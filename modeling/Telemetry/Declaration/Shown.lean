import Telemetry.Declaration.Basic
import Telemetry.Text.Outline

/-!
Outlines of declarations for logs. A target is shown without its password and its authorities, a
declaration with the names of its targets only.
-/

namespace Telemetry

open Text

def Settings.outline (settings : Settings) : Outline :=
  .record "GlobalSettings" [
    ("format", .text settings.format),
    ("no_prefix", .bool settings.noLabels),
    ("debug", .bool settings.debug),
    ("log", .bool settings.log),
    ("log_file", .text settings.logFile),
    ("max_msg_size", .nat settings.maxMessageSize.toNat),
    ("proxy_from_env", .bool settings.proxyFromEnvironment),
    ("api", .text settings.api),
    ("username", .option .text settings.username),
    ("password", .option .text settings.password),
    ("insecure", .bool settings.insecure),
    ("skip_verify", .bool settings.skipVerify),
    ("timeout_in_ms", .nat settings.timeoutMs.toNat)]

def Target.outline (target : Target) : Outline :=
  .record "TargetConfig" [
    ("name", .text target.name),
    ("address", .text target.address),
    ("username", .option .text target.username),
    ("insecure", .option .bool target.insecure),
    ("skip_verify", .option .bool target.skipVerify),
    ("timeout_in_ms", .option (fun ms => .nat ms.toNat) target.timeoutMs),
    ("subscriptions", .list (target.subscriptions.map .text))]

def Declaration.outline (declaration : Declaration) : Outline :=
  .record "CollectorConfig" [
    ("global", declaration.settings.outline),
    ("targets", .list (declaration.targets.names.map .text))]

end Telemetry
