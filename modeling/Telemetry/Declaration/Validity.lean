import Telemetry.Declaration.Basic
import Telemetry.Error
import Telemetry.Net.SocketAddress
import Telemetry.Text.Blank

/-!
Validity of a declaration: the settings first, then every target, in ascending order of the names.
-/

namespace Telemetry

/-- The formats that may be configured; the empty name stands for JSON. -/
def supportedFormats : List String := "" :: namedFormats

namespace Settings

def validate (settings : Settings) : Except Invalid Unit :=
  if !supportedFormats.contains settings.format then .error (.unknownFormat settings.format)
  else if settings.api != "" && (Net.SocketAddress.parse? settings.api).isNone then
    .error (.badApiAddress settings.api)
  else if settings.timeoutMs = 0 then .error .zeroTimeout
  else .ok ()

end Settings

/-- What is wrong with a target that is declared under a name. -/
def Target.flaw? (name : String) (target : Target) : Option Invalid :=
  if Text.isBlank name then some .unnamedTarget
  else if target.timeoutMs = some 0 then some (.zeroTargetTimeout name)
  else none

namespace Declaration

def validate (declaration : Declaration) : Except Invalid Declaration :=
  match declaration.settings.validate with
  | .error reason => .error reason
  | .ok () =>
      match declaration.targets.entries.findSome? (fun entry => entry.2.flaw? entry.1) with
      | some reason => .error reason
      | none => .ok declaration

end Declaration

end Telemetry
