import Telemetry.Json.Printer
import Telemetry.NameMap
import Telemetry.Record
import Telemetry.Text.Quoted

/-!
JSON values read as typed data. Nothing is converted: a value of another kind than the expected one
is refused.
-/

namespace Telemetry.Json

/-- Why a value is not the expected one. -/
inductive Mismatch where
  | wrongKind (found expected : String)
  | wrongValue (found expected : String)
  | missingField (name : String)
  | unknownVariant (name : String) (variants : List String)
  | wrongLength (length : Nat) (expected : String)
deriving DecidableEq, Repr

def Mismatch.message : Mismatch → String
  | .wrongKind found expected => "invalid type: " ++ found ++ ", expected " ++ expected
  | .wrongValue found expected => "invalid value: " ++ found ++ ", expected " ++ expected
  | .missingField name => "missing field `" ++ name ++ "`"
  | .unknownVariant name variants =>
      "unknown variant `" ++ name ++ "`, expected one of " ++
        String.intercalate ", " (variants.map (fun variant => "`" ++ variant ++ "`"))
  | .wrongLength length expected =>
    "invalid length " ++ toString length ++ ", expected " ++ expected

/-- A value as messages name it. -/
def describe : Json → String
  | .null => "null"
  | .bool value => "boolean `" ++ toString value ++ "`"
  | .integer value => "integer `" ++ toString value ++ "`"
  | .double value => "floating point `" ++ String.ofList (doubleText value) ++ "`"
  | .string value => "string " ++ Text.quoted value
  | .array _ => "sequence"
  | .object _ => "map"

def wrongKind (value : Json) (expected : String) : Except Mismatch α :=
  .error (.wrongKind value.describe expected)

def readString : Json → Except Mismatch String
  | .string value => .ok value
  | value => wrongKind value "a string"

def readBool : Json → Except Mismatch Bool
  | .bool value => .ok value
  | value => wrongKind value "a boolean"

/-- A whole number below 2 ^ 64; the expectation names its type. -/
def readWord (expected : String) : Json → Except Mismatch UInt64
  | .integer value =>
      if 0 ≤ value then .ok (UInt64.ofNat value.toNat)
      else .error (.wrongValue (describe (.integer value)) expected)
  | value => wrongKind value expected

def readOption (read : Json → Except Mismatch α) : Json → Except Mismatch (Option α)
  | .null => .ok none
  | value => (read value).map some

def readList (read : Json → Except Mismatch α) : Json → Except Mismatch (List α)
  | .array items => items.mapM read
  | value => wrongKind value "a sequence"

/-- Reads the values of an object under their keys, which ascend. -/
def readEntries (read : Json → Except Mismatch α) :
    List (String × Json) → Except Mismatch (NameMap α)
  | [] => .ok NameMap.empty
  | (name, value) :: rest => do
      let first ← read value
      let map ← readEntries read rest
      return map.insert name first

def readMap (read : Json → Except Mismatch α) : Json → Except Mismatch (NameMap α)
  | .object fields => readEntries read fields
  | value => wrongKind value "a map"

/-- Reads a record whose fields all have defaults: from an object by name, from an array in
order. -/
def readRecord (name : String) (fields : List (RecordField Json Mismatch record)) (start : record) :
    Json → Except Mismatch record
  | .object entries => RecordField.setByName fields entries start
  | .array items =>
      match RecordField.setInOrder fields items start with
      | .error reason => .error reason
      | .ok r =>
          if fields.length < items.length then
            .error (.wrongLength items.length "fewer elements in array")
          else .ok r
  | value => wrongKind value ("struct " ++ name)

/-- Reads a record whose fields are all required, by way of a draft: finish gives the record of a
complete draft, or the name of the first missing field. -/
def readComplete (name : String) (fields : List (RecordField Json Mismatch draft)) (start : draft)
    (finish : draft → Except String record) : Json → Except Mismatch record
  | .object entries => do
      let d ← RecordField.setByName fields entries start
      match finish d with
      | .ok r => return r
      | .error missing => throw (.missingField missing)
  | .array items => do
      let d ← RecordField.setInOrder fields items start
      match finish d with
      | .error _ =>
          throw (.wrongLength items.length
            ("struct " ++ name ++ " with " ++ toString fields.length ++ " elements"))
      | .ok r =>
          if fields.length < items.length then
            throw (.wrongLength items.length "fewer elements in array")
          else return r
  | value => wrongKind value ("struct " ++ name)

/-- A field that a reader of its value fills in. -/
def recordField (name : String) (read : Json → Except Mismatch α) (put : α → record → record) :
    RecordField Json Mismatch record where
  name := name
  set value r := (read value).map (fun part => put part r)

end Telemetry.Json
