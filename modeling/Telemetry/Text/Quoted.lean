import Telemetry.Text.Unprintable
import Telemetry.Text.CombiningMark

/-!
Quoted text: a string in double quotes in which every character that has no visible form of its
own is written as an escape. Messages show names, addresses and paths this way.
-/

namespace Telemetry.Text.Quoted

/-- Digits of a number in base sixteen, lower case, without leading zeros. -/
def hexDigits (n : Nat) : List Char := Nat.toDigits 16 n

/-- The written form of one character inside the quotes. -/
def escape (c : Char) : List Char :=
  if c = '"' then ['\\', '"']
  else if c = '\\' then ['\\', '\\']
  else if c = '\n' then ['\\', 'n']
  else if c = '\r' then ['\\', 'r']
  else if c = '\t' then ['\\', 't']
  else if c.toNat = 0 then ['\\', '0']
  else if 0x20 ≤ c.toNat && c.toNat < 0x7F then [c]
  else if isCombiningMark c || isUnprintable c then
    ['\\', 'u', '\x7b'] ++ hexDigits c.toNat ++ ['\x7d']
  else [c]

def encode (text : List Char) : List Char :=
  '"' :: (text.flatMap escape ++ ['"'])

end Telemetry.Text.Quoted

namespace Telemetry.Text

/-- A string as messages quote it. -/
def quoted (text : String) : String := String.ofList (Quoted.encode text.toList)

/-- A bracketed, comma-separated list of quoted strings. -/
def quotedList (texts : List String) : String :=
  "[" ++ String.intercalate ", " (texts.map quoted) ++ "]"

end Telemetry.Text
