import Telemetry.Decimal.Reading
import Telemetry.Layer.KeyPath

/-!
The environment as the highest layer. A variable counts when its name starts with the collector's
mark; the rest of the name, with double underscores for points, is the key. Its text is taken as a
truth value or a number where it spells one.
-/

namespace Telemetry

/-- Variables with their values. -/
abbrev Environment := List (String × String)

def Environment.get? (environment : Environment) (name : String) : Option String :=
  (environment.find? (fun binding => binding.1 == name)).map (·.2)

namespace Layer

def environmentOrigin : String := "the environment"

/-- How the lower-cased names of the variables that count start. -/
def environmentMark : List Char := "collector__".toList

/-- Replaces double underscores by points, from left to right. -/
def pointed : List Char → List Char
  | '_' :: '_' :: rest => '.' :: pointed rest
  | c :: rest => c :: pointed rest
  | [] => []

/-- The key that a variable's name stands for, if it counts. -/
def environmentKey? (name : String) : Option String :=
  let lower := Text.lowerChars name.toList
  if environmentMark.isPrefixOf lower then
    some (String.ofList (pointed (lower.drop environmentMark.length)))
  else none

/-- What a text from the environment is taken as. -/
def environmentValue (text : String) : Scalar :=
  let lower := Text.lowercase text
  if lower = "true" then .bool true
  else if lower = "false" then .bool false
  else
    match Decimal.readInt64 text.toList with
    | some value => .integer value
    | none =>
        match Decimal.readDouble text.toList with
        | some value => .double value
        | none => .text text

/-- The entry of one variable; an empty text counts as none. -/
def environmentEntry? (binding : String × String) : Option (String × Node) :=
  if binding.2 = "" then none
  else
    (environmentKey? binding.1).map fun key =>
      (key, .leaf (some environmentOrigin) (environmentValue binding.2))

def environmentLayer (environment : Environment) : Entries :=
  environment.filterMap environmentEntry?

end Layer

end Telemetry
