import Telemetry.Decimal.Double

/-!
Numbers read from text: whole numbers with an optional sign, and decimals with an optional sign,
point and exponent, or one of the words for infinity and for what is no number.
-/

namespace Telemetry.Decimal

/-- Whether the text is one or more decimal digits. -/
def isDigits (text : List Char) : Bool := !text.isEmpty && text.all Char.isDigit

/-- The number that decimal digits spell. -/
def digitsValue (text : List Char) : Nat :=
  text.foldl (fun value c => value * 10 + (c.toNat - '0'.toNat)) 0

/-- Splits a sign off: whether it is a minus, and what follows. -/
def splitSign : List Char → Bool × List Char
  | '-' :: rest => (true, rest)
  | '+' :: rest => (false, rest)
  | text => (false, text)

/-- A whole number from -2 ^ 63 to 2 ^ 63 - 1, written with an optional sign. -/
def readInt64 (text : List Char) : Option Int :=
  let (negative, digits) := splitSign text
  if isDigits digits then
    let value : Int := if negative then -(digitsValue digits : Int) else digitsValue digits
    if -(signedBound : Int) ≤ value ∧ value < (signedBound : Int) then some value else none
  else none

/-- A whole number below 2 ^ 64, written with an optional plus. -/
def readNat64 (text : List Char) : Option Nat :=
  let digits :=
    match text with
    | '+' :: rest => rest
    | _ => text
  if isDigits digits ∧ digitsValue digits < wordBound then some (digitsValue digits) else none

/-- The exponent part of a decimal: nothing, or a mark, an optional sign and digits. -/
def readExponent : List Char → Option Int
  | [] => some 0
  | c :: rest =>
      if c = 'e' ∨ c = 'E' then
        let (negative, digits) := splitSign rest
        if isDigits digits then
          some (if negative then -(digitsValue digits : Int) else digitsValue digits)
        else none
      else none

/-- The nearest number to a decimal without a sign. At least one digit stands before or after the
point. -/
def readUnsigned (negative : Bool) (text : List Char) : Option Double :=
  let whole := text.takeWhile Char.isDigit
  let afterWhole := text.dropWhile Char.isDigit
  let (fraction, rest) :=
    match afterWhole with
    | '.' :: more => (more.takeWhile Char.isDigit, more.dropWhile Char.isDigit)
    | _ => ([], afterWhole)
  if whole.isEmpty && fraction.isEmpty then none
  else
    (readExponent rest).map fun exponent =>
      Double.ofDecimal negative (digitsValue (whole ++ fraction)) (exponent - fraction.length)

/-- The nearest number to a decimal, or the value of one of the words inf, infinity and nan in any
case. -/
def readDouble (text : List Char) : Option Double :=
  let (negative, body) := splitSign text
  let word := body.map Char.toLower
  if word = "inf".toList ∨ word = "infinity".toList then some (.infinite negative)
  else if word = "nan".toList then some .nan
  else readUnsigned negative body

end Telemetry.Decimal
