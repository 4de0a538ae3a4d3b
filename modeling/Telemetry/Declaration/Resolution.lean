import Telemetry.Declaration.Basic
import Telemetry.Error

/-!
Resolution of targets: each takes its name from the key it is declared under, and what it leaves
unset from the settings. An address that carries no port gets the default one.
-/

namespace Telemetry

def defaultPort : String := "57400"

/-- Whether a closing bracket with a colon right behind it occurs in the text. -/
def hasBracketedPort : List Char → Bool
  | ']' :: ':' :: _ => true
  | _ :: rest => hasBracketedPort rest
  | [] => false

/-- Whether an address carries a port: a bracketed one behind the bracket, any other behind its only
colon. -/
def hasPort (address : List Char) : Bool :=
  match address with
  | '[' :: rest => hasBracketedPort rest
  | _ => address.count ':' == 1

/-- A host as it stands in front of a port: one with colons is bracketed. -/
def bracketed (host : List Char) : List Char :=
  if host.contains ':' && host.head? != some '[' then '[' :: (host ++ [']']) else host

/-- An address with a port: its own, or the default one. -/
def withPort (address : List Char) : List Char :=
  if hasPort address then address else bracketed address ++ ':' :: defaultPort.toList

/-- The address that a declared address stands for under a key. -/
def resolvedAddress (key declared : String) : String :=
  String.ofList (withPort (if declared = "" then key else declared).toList)

/-- The target with its name and address settled and its unset fields filled from the settings. -/
def Target.resolve (target : Target) (key : String) (settings : Settings) : Target :=
  { target with
    name := key
    address := resolvedAddress key target.address
    username := target.username <|> settings.username
    password := target.password <|> settings.password
    insecure := some (target.insecure.getD settings.insecure)
    skipVerify := some (target.skipVerify.getD settings.skipVerify)
    timeoutMs := some (target.timeoutMs.getD settings.timeoutMs) }

/-- The declared targets, resolved; it is a failure that there are none. -/
def Declaration.resolvedTargets (declaration : Declaration) : Except TargetError TargetSet :=
  if declaration.targets.isEmpty then .error .noTargets
  else
    .ok (declaration.targets.mapWithName fun name target =>
      target.resolve name declaration.settings)

end Telemetry
