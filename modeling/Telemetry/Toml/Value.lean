import Telemetry.Decimal.Double

/-!
Values of the configuration format TOML. Dates and times are kept as their canonical text.
-/

namespace Telemetry.Toml

open Decimal

inductive Value where
  | string (value : String)
  | integer (value : Int)
  | double (value : Double)
  | bool (value : Bool)
  | dateTime (text : String)
  | array (items : List Value)
  | table (entries : List (String × Value))
deriving Repr, Inhabited

end Telemetry.Toml
