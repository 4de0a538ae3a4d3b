import Telemetry.Decimal.Layout
import Telemetry.Json.Value
import Telemetry.Text.Hex

/-!
Texts of JSON values: on one line without blanks, or with one element a line.
-/

namespace Telemetry.Json

open Decimal

/-- Exponents from -5 to 15 are written positionally, a whole number ends in a point and a zero, and
a positive exponent has its sign. A tie between two shortest decimals goes to the even one. -/
def numberLayout : Layout where
  positional := some (-5, 15)
  wholeEnd := ".0"
  positiveExponent := "+"
  tie := .toEven
  infinity := "null"
  notANumber := "null"

def hexDigit (n : Nat) : Char := Nat.digitChar (n % 16)

/-- A character inside a string. -/
def escape (c : Char) : List Char :=
  if c = '"' then ['\\', '"']
  else if c = '\\' then ['\\', '\\']
  else if c.toNat = 0x8 then ['\\', 'b']
  else if c.toNat = 0xC then ['\\', 'f']
  else if c = '\n' then ['\\', 'n']
  else if c = '\r' then ['\\', 'r']
  else if c = '\t' then ['\\', 't']
  else if c.toNat < 0x20 then ['\\', 'u', '0', '0', hexDigit (c.toNat / 16), hexDigit c.toNat]
  else [c]

def stringText (value : String) : List Char := '"' :: (value.toList.flatMap escape ++ ['"'])

def integerText (value : Int) : List Char := (toString value).toList

def doubleText (value : Double) : List Char :=
  match value with
  | .finite _ _ _ => (numberLayout.number value).toList
  | _ => "null".toList

mutual

/-- The text of a value on one line, without blanks. -/
def inline : Json → List Char
  | .null => "null".toList
  | .bool true => "true".toList
  | .bool false => "false".toList
  | .integer value => integerText value
  | .double value => doubleText value
  | .string value => stringText value
  | .array [] => ['[', ']']
  | .array (item :: items) => '[' :: (inline item ++ inlineItems items)
  | .object [] => ['\x7b', '\x7d']
  | .object ((key, value) :: fields) =>
      '\x7b' :: (stringText key ++ ':' :: (inline value ++ inlineFields fields))

def inlineItems : List Json → List Char
  | [] => [']']
  | item :: items => ',' :: (inline item ++ inlineItems items)

def inlineFields : List (String × Json) → List Char
  | [] => ['\x7d']
  | (key, value) :: fields =>
      ',' :: (stringText key ++ ':' :: (inline value ++ inlineFields fields))

end

/-- A new line that starts with the indentation of a depth. -/
def newline (indent : List Char) (depth : Nat) : List Char :=
  '\n' :: (List.replicate depth indent).flatten

mutual

/-- The text of a value with one element a line, each level indented once more. -/
def spread (indent : List Char) (depth : Nat) : Json → List Char
  | .null => "null".toList
  | .bool true => "true".toList
  | .bool false => "false".toList
  | .integer value => integerText value
  | .double value => doubleText value
  | .string value => stringText value
  | .array [] => ['[', ']']
  | .array (item :: items) =>
      '[' :: (newline indent (depth + 1) ++ spread indent (depth + 1) item ++
        spreadItems indent depth items)
  | .object [] => ['\x7b', '\x7d']
  | .object ((key, value) :: fields) =>
      '\x7b' :: (newline indent (depth + 1) ++ stringText key ++ ':' :: ' ' ::
        (spread indent (depth + 1) value ++ spreadFields indent depth fields))

def spreadItems (indent : List Char) (depth : Nat) : List Json → List Char
  | [] => newline indent depth ++ [']']
  | item :: items =>
      ',' :: (newline indent (depth + 1) ++ spread indent (depth + 1) item ++
        spreadItems indent depth items)

def spreadFields (indent : List Char) (depth : Nat) : List (String × Json) → List Char
  | [] => newline indent depth ++ ['\x7d']
  | (key, value) :: fields =>
      ',' :: (newline indent (depth + 1) ++ stringText key ++ ':' :: ' ' ::
        (spread indent (depth + 1) value ++ spreadFields indent depth fields))

end

/-- The text of a value on one line. -/
def compact (value : Json) : String := String.ofList (inline value)

/-- A character inside a text that is to hold ASCII only: escaped by its one or two units of sixteen
bits when it lies beyond. -/
def asciiChar (c : Char) : List Char :=
  if c.toNat < 0x80 then [c]
  else if c.toNat < 0x10000 then '\\' :: 'u' :: Text.hexQuad c.toNat
  else
    let rest := c.toNat - 0x10000
    '\\' :: 'u' :: (Text.hexQuad (0xD800 + rest / 1024) ++
      '\\' :: 'u' :: Text.hexQuad (0xDC00 + rest % 1024))

/-- The text of a value on one line, in ASCII. -/
def ascii (value : Json) : String := String.ofList ((inline value).flatMap asciiChar)

end Telemetry.Json
