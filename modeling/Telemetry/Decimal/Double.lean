import Telemetry.Decimal.Power

/-!
Binary floating point numbers of 64 bits, held exactly: a significand below 2 ^ 53 times a power of
two. Rounding a quotient to the nearest number, a tie to the even significand, is the only way to
make one from a decimal text.
-/

namespace Telemetry.Decimal

inductive Double where
  | finite (negative : Bool) (significand : Nat) (exponent : Int)
  | infinite (negative : Bool)
  | nan
deriving DecidableEq, Repr

namespace Double

def leastExponent : Int := -1074

def greatestExponent : Int := 971

def zero (negative : Bool) : Double := .finite negative 0 leastExponent

/-- The quotient and the remainder of a ratio divided by a power of two, and the divisor that the
remainder is measured by. -/
def scaled (numerator denominator : Nat) (exponent : Int) : Nat × Nat × Nat :=
  let top := numerator * twoTo (-exponent).toNat
  let bottom := denominator * twoTo exponent.toNat
  (top / bottom, top % bottom, bottom)

/-- The power of two by which a positive ratio is divided to leave 53 bits, or fewer bits when no
smaller power exists. -/
def roundingExponent (numerator denominator : Nat) : Int :=
  let guess : Int := (numerator.log2 : Int) - denominator.log2 - 53
  let exact := if (scaled numerator denominator guess).1 < twoTo 53 then guess else guess + 1
  max exact leastExponent

/-- The number nearest to a ratio; of two equally near ones the one with the even significand. -/
def ofRatio (negative : Bool) (numerator denominator : Nat) : Double :=
  if numerator = 0 then zero negative
  else
    let exponent := roundingExponent numerator denominator
    let (quotient, remainder, divisor) := scaled numerator denominator exponent
    let rounded :=
      if 2 * remainder > divisor || (2 * remainder == divisor && quotient % 2 == 1) then
        quotient + 1
      else quotient
    let (significand, exponent) :=
      if rounded = twoTo 53 then (twoTo 52, exponent + 1) else (rounded, exponent)
    if exponent > greatestExponent then .infinite negative
    else .finite negative significand exponent

/-- The number nearest to digits times a power of ten. Powers that leave the range on either side
are settled without being computed. -/
def ofDecimal (negative : Bool) (digits : Nat) (power : Int) : Double :=
  if digits = 0 then zero negative
  else if power > 400 then .infinite negative
  else if ((digits.log2 : Int) + 1) / 3 + 1 + power < -400 then zero negative
  else ofRatio negative (digits * tenTo power.toNat) (tenTo (-power).toNat)

/-- The whole number nearest to the number without its sign, a half going up. -/
def roundedMagnitude (significand : Nat) (exponent : Int) : Nat :=
  if 0 ≤ exponent then significand * twoTo exponent.toNat
  else (significand + twoTo ((-exponent).toNat - 1)) / twoTo (-exponent).toNat

/-- The nearest whole number from 0 to the given greatest one, 0 when there is no number. -/
def toNatClamped (greatest : Nat) : Double → Nat
  | .finite true _ _ => 0
  | .finite false significand exponent => min greatest (roundedMagnitude significand exponent)
  | .infinite true => 0
  | .infinite false => greatest
  | .nan => 0

/-- Whether the number differs from zero; what is no number does. -/
def isNonzero : Double → Bool
  | .finite _ significand _ => significand != 0
  | .infinite _ => true
  | .nan => true

end Double

end Telemetry.Decimal
