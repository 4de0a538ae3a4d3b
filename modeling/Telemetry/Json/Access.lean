import Telemetry.Json.Value

/-!
Parts of JSON values by name. A part that is missing, or of another kind than asked for, reads as
the empty one of its kind.
-/

namespace Telemetry.Json

def entries : Json → List (String × Json)
  | .object fields => fields
  | _ => []

def field (value : Json) (name : String) : Json :=
  ((value.entries.find? (fun entry => entry.1 == name)).map (·.2)).getD .null

def text? (value : Json) (name : String) : Option String :=
  match value.field name with
  | .string text => some text
  | _ => none

def text (value : Json) (name : String) : String := (value.text? name).getD ""

def flag (value : Json) (name : String) : Bool := value.field name == .bool true

def items (value : Json) (name : String) : List Json :=
  match value.field name with
  | .array items => items
  | _ => []

def texts (value : Json) (name : String) : List String :=
  (value.items name).filterMap fun
    | .string text => some text
    | _ => none

/-- A whole number that is not negative. -/
def count (value : Json) (name : String) : Nat :=
  match value.field name with
  | .integer number => number.toNat
  | _ => 0

end Telemetry.Json
