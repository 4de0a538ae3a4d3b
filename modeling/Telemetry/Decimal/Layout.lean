import Telemetry.Decimal.Shortest

/-!
Layouts of decimals: which exponents are written positionally, how a whole number ends, and what
stands for the values that are no decimals.
-/

namespace Telemetry.Decimal

/-- How numbers are written. -/
structure Layout where
  /-- The least and the greatest exponent of the first digit that are written positionally; all
  when there is no bound. -/
  positional : Option (Int × Int)
  wholeEnd : String
  positiveExponent : String
  tie : Tie
  infinity : String
  notANumber : String

namespace Layout

/-- Digits with a point after the given number of them, zeros filling the gap on either side. -/
def pointed (layout : Layout) (digits : String) (place : Int) : String :=
  let length : Int := digits.length
  if place ≤ 0 then "0." ++ String.ofList (List.replicate (-place).toNat '0') ++ digits
  else if length ≤ place then
    digits ++ String.ofList (List.replicate (place - length).toNat '0') ++ layout.wholeEnd
  else
    String.ofList (digits.toList.take place.toNat) ++ "." ++
      String.ofList (digits.toList.drop place.toNat)

def scientific (layout : Layout) (digits : String) (exponent : Int) : String :=
  let mantissa :=
    match digits.toList with
    | first :: second :: rest => String.ofList (first :: '.' :: second :: rest)
    | short => String.ofList short
  mantissa ++ "e" ++ (if 0 ≤ exponent then layout.positiveExponent else "") ++ toString exponent

/-- A positive decimal. -/
def decimal (layout : Layout) (d : Digits) : String :=
  let digits := toString d.digits
  let place : Int := digits.length + d.power
  match layout.positional with
  | none => layout.pointed digits place
  | some (least, greatest) =>
      if least ≤ place - 1 ∧ place - 1 ≤ greatest then layout.pointed digits place
      else layout.scientific digits (place - 1)

def number (layout : Layout) : Double → String
  | .finite negative significand exponent =>
      (if negative then "-" else "") ++
        (if significand = 0 then "0" ++ layout.wholeEnd
         else layout.decimal (shortest layout.tie significand exponent))
  | .infinite negative => (if negative then "-" else "") ++ layout.infinity
  | .nan => layout.notANumber

/-- All digits in place, a whole number without a point. -/
def plain : Layout where
  positional := none
  wholeEnd := ""
  positiveExponent := ""
  tie := .up
  infinity := "inf"
  notANumber := "NaN"

/-- All digits in place, a whole number with a zero behind the point. -/
def pointedPlain : Layout := { plain with wholeEnd := ".0" }

end Layout

end Telemetry.Decimal
