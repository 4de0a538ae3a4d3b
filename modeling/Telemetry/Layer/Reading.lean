import Telemetry.Decimal.Layout
import Telemetry.Decimal.Reading
import Telemetry.Declaration.Basic
import Telemetry.Error
import Telemetry.Layer.Node
import Telemetry.Record

/-!
Trees of settings read as typed data. Unlike in other formats, texts, numbers and truth values are
converted into one another where that makes sense.
-/

namespace Telemetry.Layer

open Decimal

/-- A value as messages about single settings name it. -/
def Node.describe : Node → String
  | .leaf _ .nil => "unit value"
  | .leaf _ (.bool value) => "boolean `" ++ toString value ++ "`"
  | .leaf _ (.integer value) => "64-bit integer `" ++ toString value ++ "`"
  | .leaf _ (.double value) => "floating point `" ++ Layout.plain.number value ++ "`"
  | .leaf _ (.text value) => "string " ++ Text.quoted value
  | .list _ _ => "sequence"
  | .table _ _ => "map"

/-- A value as messages about groups of settings name it. -/
def Node.describeShape : Node → String
  | .leaf _ (.integer value) => "integer `" ++ toString value ++ "`"
  | .leaf _ (.double value) => "floating point `" ++ Layout.pointedPlain.number value ++ "`"
  | node => node.describe

def Node.origin : Node → Option String
  | .leaf origin _ => origin
  | .list origin _ => origin
  | .table origin _ => origin

def wrongType (node : Node) (expected : String) : Except ConfigError α :=
  .error (.wrongType node.describe expected none node.origin)

def wrongText (text expected : String) (origin : Option String) : Except ConfigError α :=
  .error (.wrongType ("string " ++ Text.quoted text) expected none origin)

def wrongShape (node : Node) (expected : String) : Except ConfigError α :=
  .error (.wrongShape node.describeShape expected)

def readBool : Node → Except ConfigError Bool
  | .leaf _ (.bool value) => .ok value
  | .leaf _ (.integer value) => .ok (value != 0)
  | .leaf _ (.double value) => .ok value.isNonzero
  | .leaf origin (.text value) =>
      let lower := Text.lowercase value
      if ["1", "true", "on", "yes"].contains lower then .ok true
      else if ["0", "false", "off", "no"].contains lower then .ok false
      else wrongText lower "a boolean" origin
  | node => wrongType node "a boolean"

def greatestWord : Nat := Decimal.wordBound - 1

def readWord : Node → Except ConfigError UInt64
  | .leaf _ (.bool value) => .ok (if value then 1 else 0)
  | .leaf origin (.integer value) =>
      if 0 ≤ value then .ok (UInt64.ofNat value.toNat)
      else wrongType (.leaf origin (.integer value)) "an unsigned 64 bit or less integer"
  | .leaf _ (.double value) => .ok (UInt64.ofNat (value.toNatClamped greatestWord))
  | .leaf origin (.text value) =>
      let lower := Text.lowercase value
      if ["true", "on", "yes"].contains lower then .ok 1
      else if ["false", "off", "no"].contains lower then .ok 0
      else
        match readNat64 value.toList with
        | some number => .ok (UInt64.ofNat number)
        | none => wrongText value "an integer" origin
  | node => wrongType node "an integer"

def readText : Node → Except ConfigError String
  | .leaf _ (.text value) => .ok value
  | .leaf _ (.bool value) => .ok (toString value)
  | .leaf _ (.integer value) => .ok (toString value)
  | .leaf _ (.double value) => .ok (Layout.plain.number value)
  | node => wrongType node "a string"

def readOption (read : Node → Except ConfigError α) : Node → Except ConfigError (Option α)
  | .leaf _ .nil => .ok none
  | node => (read node).map some

/-- Puts a step in front of the key that a failure names. A point joins it to a key that starts with
a name. -/
def located (step : String) (joined : Bool) : ConfigError → ConfigError
  | .wrongType found expected key origin =>
      let key := key.getD ""
      let point := if joined && key != "" && key.toList.head? != some '[' then "." else ""
      .wrongType found expected (some (step ++ point ++ key)) origin
  | reason => reason

def underKey (key : String) (result : Except ConfigError α) : Except ConfigError α :=
  result.mapError (located key true)

def atIndex (index : Nat) (result : Except ConfigError α) : Except ConfigError α :=
  result.mapError (located ("[" ++ toString index ++ "]") false)

/-- A part of a table or of a list: where it stands, and what stands there. -/
structure Part where
  locate : ConfigError → ConfigError
  node : Node

/-- Reads the elements of a list, counting from the given position. -/
def readItems (read : Node → Except ConfigError α) (start : Nat) :
    List Node → Except ConfigError (List α)
  | [] => .ok []
  | item :: items => do
      let first ← atIndex start (read item)
      let rest ← readItems read (start + 1) items
      return first :: rest

def readList (read : Node → Except ConfigError α) : Node → Except ConfigError (List α)
  | .list _ items => readItems read 0 items
  | node => wrongShape node "a sequence"

def readEntries (read : Node → Except ConfigError α) :
    List (String × Node) → Except ConfigError (NameMap α)
  | [] => .ok NameMap.empty
  | (key, value) :: rest => do
      let first ← underKey key (read value)
      let map ← readEntries read rest
      return map.insert key first

def readMap (read : Node → Except ConfigError α) : Node → Except ConfigError (NameMap α)
  | .table _ entries => readEntries read entries
  | node => wrongShape node "a map"

/-- Reads a record: from a table by name, from a list in order. -/
def readRecord (name : String) (fields : List (RecordField Part ConfigError record))
    (start : record) : Node → Except ConfigError record
  | .table _ entries =>
      RecordField.setByName fields
        (entries.map (fun entry => (entry.1, ⟨located entry.1 true, entry.2⟩))) start
  | .list _ items =>
      let parts := items.mapIdx fun index item =>
        ⟨located ("[" ++ toString index ++ "]") false, item⟩
      RecordField.setInOrder fields parts start
  | node => wrongShape node ("struct " ++ name)

/-- A field that a reader of its value fills in. -/
def field (name : String) (read : Node → Except ConfigError α) (put : α → record → record) :
    RecordField Part ConfigError record where
  name := name
  set part r := ((read part.node).mapError part.locate).map (fun value => put value r)

def settingsFields : List (RecordField Part ConfigError Settings) := [
  field "format" readText fun value s => { s with format := value },
  field "no_prefix" readBool fun value s => { s with noLabels := value },
  field "debug" readBool fun value s => { s with debug := value },
  field "log" readBool fun value s => { s with log := value },
  field "log_file" readText fun value s => { s with logFile := value },
  field "max_msg_size" readWord fun value s => { s with maxMessageSize := value },
  field "proxy_from_env" readBool fun value s => { s with proxyFromEnvironment := value },
  field "api" readText fun value s => { s with api := value },
  field "username" (readOption readText) fun value s => { s with username := value },
  field "password" (readOption readText) fun value s => { s with password := value },
  field "insecure" readBool fun value s => { s with insecure := value },
  field "skip_verify" readBool fun value s => { s with skipVerify := value },
  field "timeout_in_ms" readWord fun value s => { s with timeoutMs := value }]

def targetFields : List (RecordField Part ConfigError Target) := [
  field "name" readText fun value t => { t with name := value },
  field "address" readText fun value t => { t with address := value },
  field "username" (readOption readText) fun value t => { t with username := value },
  field "password" (readOption readText) fun value t => { t with password := value },
  field "insecure" (readOption readBool) fun value t => { t with insecure := value },
  field "skip_verify" (readOption readBool) fun value t => { t with skipVerify := value },
  field "timeout_in_ms" (readOption readWord) fun value t => { t with timeoutMs := value },
  field "tls_ca" (readOption readText) fun value t => { t with authorityFile := value },
  field "subscriptions" (readList readText) fun value t => { t with subscriptions := value }]

def readSettings : Node → Except ConfigError Settings :=
  readRecord "GlobalSettings" settingsFields Settings.default

def readTarget : Node → Except ConfigError Target :=
  readRecord "TargetConfig" targetFields Target.default

def declarationFields : List (RecordField Part ConfigError Declaration) := [
  field "global" readSettings fun value d => { d with settings := value },
  field "targets" (readMap readTarget) fun value d => { d with targets := value }]

/-- The declaration that a tree of settings spells. -/
def readDeclaration : Node → Except ConfigError Declaration :=
  readRecord "CollectorConfig" declarationFields Declaration.default

end Telemetry.Layer
