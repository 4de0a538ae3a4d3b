import Telemetry.Decimal.Double

/-!
Shortest decimals: the fewest digits that still round to a given number, and of those the nearest
to it. Only the two neighbours of the number on each decimal grid are tried: if any point of a grid
rounds to the number, so does one of them.
-/

namespace Telemetry.Decimal

/-- Where a number goes that lies exactly halfway between two decimals. -/
inductive Tie where
  | toEven
  | up
deriving DecidableEq, Repr

/-- Digits times a power of ten. -/
structure Digits where
  digits : Nat
  power : Int
deriving DecidableEq, Repr

namespace Shortest

def digitCount (n : Nat) : Nat := (Nat.toDigits 10 n).length

/-- The ends of the interval that rounds to a number, and the number itself, in quarters of the
unit of its last binary digit. -/
structure Interval where
  low : Nat
  value : Nat
  high : Nat
  /-- The power of two that one quarter stands for. -/
  quarter : Int
  closed : Bool

def interval (significand : Nat) (exponent : Int) : Interval where
  low :=
    if significand = twoTo 52 ∧ Double.leastExponent < exponent then 4 * significand - 1
    else 4 * significand - 2
  value := 4 * significand
  high := 4 * significand + 2
  quarter := exponent - 2
  closed := significand % 2 == 0

/-- A decimal and a count of quarters brought to one unit. -/
def onDecimal (quarter power : Int) (candidate : Nat) : Nat :=
  candidate * tenTo power.toNat * twoTo (-quarter).toNat

def onBinary (quarter power : Int) (quarters : Nat) : Nat :=
  quarters * tenTo (-power).toNat * twoTo quarter.toNat

def within (i : Interval) (power : Int) (candidate : Nat) : Bool :=
  let point := onDecimal i.quarter power candidate
  let low := onBinary i.quarter power i.low
  let high := onBinary i.quarter power i.high
  if i.closed then low ≤ point && point ≤ high else low < point && point < high

/-- The power of ten just above the number: it is below that power and not below a tenth of it. -/
def leadingPower (i : Interval) : Int :=
  let numerator := i.value * twoTo i.quarter.toNat
  let denominator := twoTo (-i.quarter).toNat
  if denominator ≤ numerator then digitCount (numerator / denominator)
  else 1 - (digitCount ((denominator - 1) / numerator) : Int)

/-- The better of the two neighbours on the grid of one power of ten, if either rounds to the
number. -/
def onGrid (tie : Tie) (i : Interval) (power : Int) : Option Nat :=
  let one := onDecimal i.quarter power 1
  let value := onBinary i.quarter power i.value
  let below := value / one
  match within i power below, within i power (below + 1) with
  | false, false => none
  | true, false => some below
  | false, true => some (below + 1)
  | true, true =>
      let twice := 2 * (value % one)
      if twice < one then some below
      else if one < twice then some (below + 1)
      else
        match tie with
        | .up => some (below + 1)
        | .toEven => some (if below % 2 == 0 then below else below + 1)

/-- Tries grids from the given number of digits on, the coarsest first. -/
def search (tie : Tie) (i : Interval) (leading : Int) : Nat → Nat → Digits
  | 0, count =>
      ⟨onBinary i.quarter (leading - count) i.value / onDecimal i.quarter (leading - count) 1,
        leading - count⟩
  | tries + 1, count =>
      match onGrid tie i (leading - count) with
      | some digits => ⟨digits, leading - count⟩
      | none => search tie i leading tries (count + 1)

/-- Removes zeros at the end of the digits. -/
def dropZeros (d : Digits) : Digits :=
  if h : d.digits ≠ 0 ∧ d.digits % 10 = 0 then dropZeros ⟨d.digits / 10, d.power + 1⟩ else d
termination_by d.digits
decreasing_by omega

end Shortest

/-- The shortest decimal that rounds to a positive number of the given parts. -/
def shortest (tie : Tie) (significand : Nat) (exponent : Int) : Digits :=
  let i := Shortest.interval significand exponent
  Shortest.dropZeros (Shortest.search tie i (Shortest.leadingPower i) 17 1)

end Telemetry.Decimal
