import Telemetry.Declaration.Basic
import Telemetry.Error
import Telemetry.Layer.KeyPath

/-!
A declaration as the lowest layer: one key path for each of its leaves. The names of targets become
parts of these paths, so a name with a point or a bracket is taken apart.
-/

namespace Telemetry.Layer

/-- A leaf of a declaration: the key path it is written under, and its value. -/
abbrev Leaf := String × Except ConfigError Scalar

def textLeaf (key value : String) : Leaf := (key, .ok (.text value))

def boolLeaf (key : String) (value : Bool) : Leaf := (key, .ok (.bool value))

/-- Whole numbers are stored with a sign, so not all of them fit. -/
def wordLeaf (key : String) (value : UInt64) : Leaf :=
  (key,
    if value.toNat < Decimal.signedBound then .ok (.integer value.toNat)
    else .error (.tooBig value.toNat))

def optionLeaf (leaf : String → α → Leaf) (key : String) : Option α → Leaf
  | none => (key, .ok .nil)
  | some value => leaf key value

def settingsLeaves (place : String) (settings : Settings) : List Leaf := [
  textLeaf (place ++ ".format") settings.format,
  boolLeaf (place ++ ".no_prefix") settings.noLabels,
  boolLeaf (place ++ ".debug") settings.debug,
  boolLeaf (place ++ ".log") settings.log,
  textLeaf (place ++ ".log_file") settings.logFile,
  wordLeaf (place ++ ".max_msg_size") settings.maxMessageSize,
  boolLeaf (place ++ ".proxy_from_env") settings.proxyFromEnvironment,
  textLeaf (place ++ ".api") settings.api,
  optionLeaf textLeaf (place ++ ".username") settings.username,
  optionLeaf textLeaf (place ++ ".password") settings.password,
  boolLeaf (place ++ ".insecure") settings.insecure,
  boolLeaf (place ++ ".skip_verify") settings.skipVerify,
  wordLeaf (place ++ ".timeout_in_ms") settings.timeoutMs]

/-- List elements are written under their positions; an empty list writes nothing. -/
def listLeaves (place : String) (values : List String) : List Leaf :=
  values.mapIdx (fun position value => textLeaf (place ++ "[" ++ toString position ++ "]") value)

def targetLeaves (place : String) (target : Target) : List Leaf := [
  textLeaf (place ++ ".name") target.name,
  textLeaf (place ++ ".address") target.address,
  optionLeaf textLeaf (place ++ ".username") target.username,
  optionLeaf textLeaf (place ++ ".password") target.password,
  optionLeaf boolLeaf (place ++ ".insecure") target.insecure,
  optionLeaf boolLeaf (place ++ ".skip_verify") target.skipVerify,
  optionLeaf wordLeaf (place ++ ".timeout_in_ms") target.timeoutMs,
  optionLeaf textLeaf (place ++ ".tls_ca") target.authorityFile] ++
  listLeaves (place ++ ".subscriptions") target.subscriptions

def declarationLeaves (declaration : Declaration) : List Leaf :=
  settingsLeaves "global" declaration.settings ++
    declaration.targets.entries.flatMap (fun entry => targetLeaves ("targets." ++ entry.1) entry.2)

/-- Writes one leaf into a tree. -/
def writeLeaf (tree : Node) (leaf : Leaf) : Except ConfigError Node :=
  match leaf.2 with
  | .error reason => .error reason
  | .ok value =>
      match KeyPath.parse (Text.lowercase leaf.1) with
      | .error flaw => .error (.badPath flaw.label)
      | .ok path => .ok (setAt path (.leaf none value) (some tree))

/-- The tree of a declaration. -/
def baseTree (declaration : Declaration) : Except ConfigError Node :=
  (declarationLeaves declaration).foldlM writeLeaf Node.emptyTable

/-- A declaration as a layer. -/
def base (declaration : Declaration) : Except ConfigError Entries :=
  (baseTree declaration).map fun
    | .table _ entries => entries
    | _ => []

end Telemetry.Layer
