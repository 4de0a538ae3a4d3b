import Telemetry.Decimal.Double

/-!
Values of the interchange format JSON. Objects hold their fields in ascending order of the keys,
each key once; whole numbers from -2 ^ 63 to 2 ^ 64 - 1 are kept apart from all other numbers.
-/

namespace Telemetry

open Decimal

inductive Json where
  | null
  | bool (value : Bool)
  | integer (value : Int)
  | double (value : Double)
  | string (value : String)
  | array (items : List Json)
  | object (fields : List (String × Json))
deriving Repr, Inhabited, BEq

namespace Json

/-- A whole number that is kept as such. -/
def isKept (value : Int) : Bool := -(signedBound : Int) ≤ value && value < (wordBound : Int)

def nat (value : Nat) : Json := .integer value

def strings (values : List String) : Json := .array (values.map .string)

/-- A string or null. -/
def ofOption (write : α → Json) : Option α → Json
  | none => .null
  | some value => write value

end Json

end Telemetry
