import Telemetry.Decimal.Reading
import Telemetry.Json.Value
import Telemetry.NameMap
import Telemetry.Text.Hex

/-!
JSON values read from text. A failure names what is wrong and the place where reading stopped: the
line and the number of bytes read of it. Containers may be nested up to a given depth; a key that
is repeated in an object keeps its last value.
-/

namespace Telemetry.Json

open Decimal

/-- What is wrong with a text. -/
inductive Flaw where
  | endInValue
  | endInList
  | endInObject
  | endInString
  | expectedValue
  | expectedWord
  | expectedColon
  | expectedListEnd
  | expectedObjectEnd
  | trailingComma
  | trailingCharacters
  | keyNotString
  | badNumber
  | outOfRange
  | controlCharacter
  | badEscape
  | unpairedEscape
  | loneSurrogate
  | tooDeep
deriving DecidableEq, Repr

def Flaw.message : Flaw → String
  | .endInValue => "EOF while parsing a value"
  | .endInList => "EOF while parsing a list"
  | .endInObject => "EOF while parsing an object"
  | .endInString => "EOF while parsing a string"
  | .expectedValue => "expected value"
  | .expectedWord => "expected ident"
  | .expectedColon => "expected `:`"
  | .expectedListEnd => "expected `,` or `]`"
  | .expectedObjectEnd => "expected `,` or `\x7d`"
  | .trailingComma => "trailing comma"
  | .trailingCharacters => "trailing characters"
  | .keyNotString => "key must be a string"
  | .badNumber => "invalid number"
  | .outOfRange => "number out of range"
  | .controlCharacter => "control character (\\u0000-\\u001F) found while parsing a string"
  | .badEscape => "invalid escape"
  | .unpairedEscape => "unexpected end of hex escape"
  | .loneSurrogate => "lone leading surrogate in hex escape"
  | .tooDeep => "recursion limit exceeded"

/-- A flaw and the number of bytes that were left unread when it showed. -/
structure Fault where
  flaw : Flaw
  unread : Nat
deriving DecidableEq, Repr

/-- A flaw and its place in the text. -/
structure TextError where
  flaw : Flaw
  line : Nat
  column : Nat
deriving DecidableEq, Repr

def TextError.message (e : TextError) : String :=
  e.flaw.message ++ " at line " ++ toString e.line ++ " column " ++ toString e.column

namespace Read

/-- The number of bytes that spell a text. -/
def byteCount (text : List Char) : Nat := text.foldl (fun count c => count + c.utf8Size) 0

/-- Fails before the rest of the text. -/
def failAt (flaw : Flaw) (rest : List Char) : Except Fault α := .error ⟨flaw, byteCount rest⟩

/-- Fails at the first byte of the rest of the text, which counts as read. -/
def failOn (flaw : Flaw) (rest : List Char) : Except Fault α := .error ⟨flaw, byteCount rest - 1⟩

def isBlankChar (c : Char) : Bool := c == ' ' || c == '\n' || c == '\t' || c == '\r'

def skipBlanks (text : List Char) : List Char := text.dropWhile isBlankChar

/-- Reads the remaining letters of a word. -/
def word (value : Json) : List Char → List Char → Except Fault (Json × List Char)
  | [], rest => .ok (value, rest)
  | _ :: _, [] => failAt .endInValue []
  | letter :: letters, c :: rest =>
      if c = letter then word value letters rest else failOn .expectedWord (c :: rest)

/-- Reads exponent digits up to the first one that leads beyond 2 ^ 31 - 1: their value, whether
they stopped there, and what follows. -/
def exponentDigits (value : Nat) : List Char → Nat × Bool × List Char
  | [] => (value, false, [])
  | c :: rest =>
      if c.isDigit then
        let next := value * 10 + (c.toNat - '0'.toNat)
        if twoTo 31 ≤ next then (value, true, rest) else exponentDigits next rest
      else (value, false, c :: rest)

/-- The number of given digits and power of ten, if it is in range. -/
def inRange (negative : Bool) (digits : Nat) (power : Int) (rest : List Char) :
    Except Fault (Json × List Char) :=
  match Double.ofDecimal negative digits power with
  | .infinite _ => failAt .outOfRange rest
  | value => .ok (.double value, rest)

/-- Reads the exponent after its mark. -/
def exponent (negative : Bool) (digits : Nat) (power : Int) (text : List Char) :
    Except Fault (Json × List Char) :=
  let (negativeExponent, rest) := splitSign text
  match rest with
  | [] => failAt .endInValue []
  | c :: _ =>
      if c.isDigit then
        match exponentDigits 0 rest with
        | (_, true, rest) =>
            if digits = 0 ∨ negativeExponent then
              .ok (.double (Double.zero negative), rest.dropWhile Char.isDigit)
            else failAt .outOfRange rest
        | (value, false, rest) =>
            inRange negative digits (if negativeExponent then power - value else power + value) rest
      else failOn .badNumber rest

def isExponentMark (c : Char) : Bool := c == 'e' || c == 'E'

/-- Reads what may follow the whole part of a number. -/
def afterWhole (negative : Bool) (whole : List Char) (text : List Char) :
    Except Fault (Json × List Char) :=
  match text with
  | '.' :: more =>
      let fraction := more.takeWhile Char.isDigit
      let rest := more.dropWhile Char.isDigit
      let digits := digitsValue (whole ++ fraction)
      if fraction.isEmpty then
        if rest.isEmpty then failAt .endInValue [] else failOn .badNumber rest
      else
        match rest with
        | c :: marked =>
            if isExponentMark c then exponent negative digits (-(fraction.length : Int)) marked
            else inRange negative digits (-(fraction.length : Int)) rest
        | [] => inRange negative digits (-(fraction.length : Int)) []
  | _ =>
      let value := digitsValue whole
      let integral : Except Fault (Json × List Char) :=
        if negative then
          if value = 0 ∨ signedBound < value then inRange true value 0 text
          else .ok (.integer (-(value : Int)), text)
        else if value < wordBound then .ok (.integer value, text)
        else inRange false value 0 text
      match text with
      | c :: marked => if isExponentMark c then exponent negative value 0 marked else integral
      | [] => integral

/-- Reads a number after its sign. -/
def number (negative : Bool) (text : List Char) : Except Fault (Json × List Char) :=
  match text with
  | [] => failAt .endInValue []
  | first :: rest =>
      if first = '0' then
        match rest with
        | c :: _ => if c.isDigit then failOn .badNumber rest else afterWhole negative ['0'] rest
        | [] => afterWhole negative ['0'] []
      else if first.isDigit then
        afterWhole negative (text.takeWhile Char.isDigit) (text.dropWhile Char.isDigit)
      else failOn .badNumber text

/-- Reads four hexadecimal digits. -/
def hexFour (text : List Char) : Except Fault (Nat × List Char) :=
  if byteCount text < 4 then failAt .endInString []
  else
    match text with
    | a :: b :: c :: d :: rest =>
        match Text.hexValue? a, Text.hexValue? b, Text.hexValue? c, Text.hexValue? d with
        | some a, some b, some c, some d => .ok (((a * 16 + b) * 16 + c) * 16 + d, rest)
        | _, _, _, _ => .error ⟨.badEscape, byteCount text - 4⟩
    | _ => .error ⟨.badEscape, byteCount text - 4⟩

def isLeading (unit : Nat) : Bool := 0xD800 ≤ unit && unit ≤ 0xDBFF

def isTrailing (unit : Nat) : Bool := 0xDC00 ≤ unit && unit ≤ 0xDFFF

/-- Reads a character given by hexadecimal digits, a pair of surrogates for one beyond the first
65536. -/
def hexEscape (text : List Char) : Except Fault (Char × List Char) := do
  let (unit, rest) ← hexFour text
  if isTrailing unit then failAt .loneSurrogate rest
  else if isLeading unit then
    match rest with
    | [] => failAt .endInString []
    | ['\\'] => failAt .endInString []
    | '\\' :: 'u' :: more =>
        let (second, rest) ← hexFour more
        if isTrailing second then
          return (Char.ofNat (0x10000 + (unit - 0xD800) * 0x400 + (second - 0xDC00)), rest)
        else failAt .loneSurrogate rest
    | '\\' :: more => failOn .unpairedEscape more
    | _ => failOn .unpairedEscape rest
  else return (Char.ofNat unit, rest)

/-- Reads an escape after its backslash. -/
def escaped (text : List Char) : Except Fault (Char × List Char) :=
  match text with
  | [] => failAt .endInString []
  | c :: rest =>
      if c = '"' ∨ c = '\\' ∨ c = '/' then .ok (c, rest)
      else if c = 'b' then .ok (Char.ofNat 0x8, rest)
      else if c = 'f' then .ok (Char.ofNat 0xC, rest)
      else if c = 'n' then .ok ('\n', rest)
      else if c = 'r' then .ok ('\r', rest)
      else if c = 't' then .ok ('\t', rest)
      else if c = 'u' then hexEscape rest
      else failOn .badEscape text

/-- Reads a string after its opening quote; the characters read so far come last one first. No more
steps are taken than allowed, which is enough when it is the length of the text. -/
def stringBody (read : List Char) : Nat → List Char → Except Fault (String × List Char)
  | 0, _ => failAt .endInString []
  | _ + 1, [] => failAt .endInString []
  | steps + 1, c :: rest =>
      if c = '"' then .ok (String.ofList read.reverse, rest)
      else if c = '\\' then
        match escaped rest with
        | .ok (character, rest) => stringBody (character :: read) steps rest
        | .error fault => .error fault
      else if c.toNat < 0x20 then failOn .controlCharacter (c :: rest)
      else stringBody (c :: read) steps rest

def string (text : List Char) : Except Fault (String × List Char) :=
  stringBody [] (text.length + 1) text

/-- Reads a value that holds no others, or fails where none starts. -/
def scalar (text : List Char) : Except Fault (Json × List Char) :=
  match text with
  | [] => failAt .endInValue []
  | c :: rest =>
      if c = 'n' then word .null "ull".toList rest
      else if c = 't' then word (.bool true) "rue".toList rest
      else if c = 'f' then word (.bool false) "alse".toList rest
      else if c = '-' then number true rest
      else if c.isDigit then number false text
      else if c = '"' then (string rest).map (fun (value, rest) => (.string value, rest))
      else failOn .expectedValue text

/-- Reads the elements of a list up to its end, given how one element is read. -/
def elements (element : List Char → Except Fault (Json × List Char)) (first : Bool) :
    Nat → List Char → Except Fault (List Json × List Char)
  | 0, text => failAt .endInList text
  | steps + 1, text =>
      let next (text : List Char) : Except Fault (List Json × List Char) := do
        let (value, rest) ← element text
        let (values, rest) ← elements element false steps rest
        return (value :: values, rest)
      match skipBlanks text with
      | [] => failAt .endInList []
      | ']' :: rest => .ok ([], rest)
      | c :: rest =>
          if first then next (c :: rest)
          else if c = ',' then
            match skipBlanks rest with
            | [] => failAt .endInValue []
            | ']' :: rest => failOn .trailingComma (']' :: rest)
            | rest => next rest
          else failOn .expectedListEnd (c :: rest)

/-- Reads the fields of an object up to its end, given how one value is read. -/
def members (element : List Char → Except Fault (Json × List Char)) (first : Bool) :
    Nat → List Char → Except Fault (List (String × Json) × List Char)
  | 0, text => failAt .endInObject text
  | steps + 1, text =>
      let next (text : List Char) : Except Fault (List (String × Json) × List Char) := do
        let (key, rest) ← string text
        match skipBlanks rest with
        | [] => failAt .endInObject []
        | ':' :: rest =>
            let (value, rest) ← element rest
            let (fields, rest) ← members element false steps rest
            return ((key, value) :: fields, rest)
        | rest => failOn .expectedColon rest
      match skipBlanks text with
      | [] => failAt .endInObject []
      | '\x7d' :: rest => .ok ([], rest)
      | c :: rest =>
          if first then
            if c = '"' then next rest else failOn .keyNotString (c :: rest)
          else if c = ',' then
            match skipBlanks rest with
            | [] => failAt .endInValue []
            | '"' :: rest => next rest
            | '\x7d' :: rest => failOn .trailingComma ('\x7d' :: rest)
            | rest => failOn .keyNotString rest
          else failOn .expectedObjectEnd (c :: rest)

/-- Fields in ascending order of the keys, of a repeated key the last one. -/
def sortFields (fields : List (String × Json)) : List (String × Json) :=
  (NameMap.ofList fields).entries

/-- Reads a value with containers nested no deeper than the given depth. -/
def value (depth : Nat) (text : List Char) : Except Fault (Json × List Char) :=
  match depth, skipBlanks text with
  | 0, '[' :: rest => failOn .tooDeep ('[' :: rest)
  | 0, '\x7b' :: rest => failOn .tooDeep ('\x7b' :: rest)
  | depth + 1, '[' :: rest =>
      (elements (value depth) true (rest.length + 1) rest).map
        (fun (items, rest) => (.array items, rest))
  | depth + 1, '\x7b' :: rest =>
      (members (value depth) true (rest.length + 1) rest).map
        (fun (fields, rest) => (.object (sortFields fields), rest))
  | _, rest => scalar rest
termination_by structural depth

/-- Reads a whole text. -/
def wholeText (depth : Nat) (text : List Char) : Except Fault Json := do
  let (result, rest) ← value depth text
  match skipBlanks rest with
  | [] => return result
  | rest => failOn .trailingCharacters rest

/-- The line and the bytes of it that lie before a given number of bytes of the text. -/
def place (line column : Nat) : Nat → List Char → Nat × Nat
  | _, [] => (line, column)
  | 0, _ => (line, column)
  | bytes + 1, c :: rest =>
      if c = '\n' then place (line + 1) 0 bytes rest
      else if bytes + 1 ≤ c.utf8Size then (line, column + bytes + 1)
      else place line (column + c.utf8Size) (bytes + 1 - c.utf8Size) rest
termination_by _ text => text.length

end Read

/-- The depth to which containers are read from texts of unknown origin. -/
def readingDepth : Nat := 127

/-- Reads a text, naming the place of what is wrong with it. -/
def parse (depth : Nat) (text : List Char) : Except TextError Json :=
  match Read.wholeText depth text with
  | .ok value => .ok value
  | .error fault =>
      let (line, column) := Read.place 1 0 (Read.byteCount text - fault.unread) text
      .error ⟨fault.flaw, line, column⟩

end Telemetry.Json
