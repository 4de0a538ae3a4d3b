/-!
Powers of two and of ten, and the bounds of the whole numbers that are kept as such.
-/

namespace Telemetry.Decimal

def twoTo (exponent : Nat) : Nat := Nat.pow 2 exponent

def tenTo (exponent : Nat) : Nat := Nat.pow 10 exponent

/-- The least number that a signed word of 64 bits does not hold. -/
def signedBound : Nat := twoTo 63

/-- The least number that a word of 64 bits does not hold. -/
def wordBound : Nat := twoTo 64

end Telemetry.Decimal
