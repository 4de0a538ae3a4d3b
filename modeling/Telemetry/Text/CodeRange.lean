/-!
Sets of code points given by ascending ranges.
-/

namespace Telemetry.Text

structure CodeRange where
  first : Nat
  last : Nat
deriving Repr

namespace CodeRange

def covers (ranges : List CodeRange) (code : Nat) : Bool :=
  ranges.any (fun range => range.first ≤ code && code ≤ range.last)

end CodeRange

end Telemetry.Text
