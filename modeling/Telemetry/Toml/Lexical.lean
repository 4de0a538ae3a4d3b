import Telemetry.Decimal.Reading

/-!
The words of TOML: blanks, comments, keys, strings, numbers, dates and times. Each reader takes what
it reads off the front of the text, or refuses.
-/

namespace Telemetry.Toml

open Decimal

/-- Takes a value off the front of a text, or refuses. -/
abbrev Reader (α : Type) := List Char → Option (α × List Char)

def isBlank (c : Char) : Bool := c == ' ' || c == '\t'

def skipBlanks (text : List Char) : List Char := text.dropWhile isBlank

/-- Characters beyond ASCII may stand wherever text may. -/
def isBeyondAscii (c : Char) : Bool := 0x80 ≤ c.toNat

def isCommentChar (c : Char) : Bool :=
  c == '\t' || (0x20 ≤ c.toNat && c.toNat ≤ 0x7E) || isBeyondAscii c

def newline? : List Char → Option (List Char)
  | '\n' :: rest => some rest
  | '\r' :: '\n' :: rest => some rest
  | _ => none

/-- Skips a comment, if one starts here. -/
def skipComment : List Char → List Char
  | '#' :: rest => rest.dropWhile isCommentChar
  | text => text

/-- What follows the end of a line: blanks and a comment may come before it. -/
def lineEnd? (text : List Char) : Option (List Char) :=
  match skipComment (skipBlanks text) with
  | [] => some []
  | rest => newline? rest

/-- Skips blanks, comments and newlines, no more of them than allowed; a comment has to end with its
line. -/
def skipSpace : Nat → List Char → Option (List Char)
  | 0, text => some text
  | allowed + 1, text =>
      match skipBlanks text with
      | '#' :: rest => (newline? (rest.dropWhile isCommentChar)).bind (skipSpace allowed)
      | '\n' :: rest => skipSpace allowed rest
      | '\r' :: rest => (newline? ('\r' :: rest)).bind (skipSpace allowed)
      | rest => some rest

def isBareKeyChar (c : Char) : Bool := c.isAlphanum || c == '_' || c == '-'

def hexDigit? (c : Char) : Option Nat :=
  if c.isDigit then some (c.toNat - '0'.toNat)
  else if 'a' ≤ c ∧ c ≤ 'f' then some (c.toNat - 'a'.toNat + 10)
  else if 'A' ≤ c ∧ c ≤ 'F' then some (c.toNat - 'A'.toNat + 10)
  else none

/-- The character of the given number of hexadecimal digits. -/
def hexChar (count : Nat) : Reader Char := fun text => do
  let digits ← (text.take count).mapM hexDigit?
  if digits.length = count then
    let code := digits.foldl (fun value digit => value * 16 + digit) 0
    if code.isValidChar then some (Char.ofNat code, text.drop count) else none
  else none

/-- The character of an escape, read after its backslash. -/
def escapeChar : Reader Char
  | 'b' :: rest => some (Char.ofNat 0x8, rest)
  | 't' :: rest => some ('\t', rest)
  | 'n' :: rest => some ('\n', rest)
  | 'f' :: rest => some (Char.ofNat 0xC, rest)
  | 'r' :: rest => some ('\r', rest)
  | '"' :: rest => some ('"', rest)
  | '\\' :: rest => some ('\\', rest)
  | 'u' :: rest => hexChar 4 rest
  | 'U' :: rest => hexChar 8 rest
  | _ => none

/-- Characters that stand for themselves in a basic string. -/
def isBasicChar (c : Char) : Bool :=
  isBlank c || c.toNat == 0x21 || (0x23 ≤ c.toNat && c.toNat ≤ 0x5B) ||
    (0x5D ≤ c.toNat && c.toNat ≤ 0x7E) || isBeyondAscii c

/-- Characters of a literal string. -/
def isLiteralChar (c : Char) : Bool :=
  c == '\t' || (0x20 ≤ c.toNat && c.toNat ≤ 0x26) || (0x28 ≤ c.toNat && c.toNat ≤ 0x7E) ||
    isBeyondAscii c

/-- The rest of a basic string; the characters read so far come last one first. -/
def basicBody (read : List Char) : Nat → Reader String
  | 0, _ => none
  | _ + 1, [] => none
  | allowed + 1, c :: rest =>
      if c = '"' then some (String.ofList read.reverse, rest)
      else if c = '\\' then
        match escapeChar rest with
        | some (escaped, rest) => basicBody (escaped :: read) allowed rest
        | none => none
      else if isBasicChar c then basicBody (c :: read) allowed rest
      else none

def literalBody : Reader String := fun text =>
  let body := text.takeWhile isLiteralChar
  match text.drop body.length with
  | '\'' :: rest => some (String.ofList body, rest)
  | _ => none

/-- How many of a character stand at the front, up to a limit. -/
def leadingCount (c : Char) (limit : Nat) (text : List Char) : Nat :=
  ((text.take limit).takeWhile (· == c)).length

/-- Skips blanks and newlines. -/
def skipLines : List Char → List Char
  | ' ' :: rest => skipLines rest
  | '\t' :: rest => skipLines rest
  | '\n' :: rest => skipLines rest
  | '\r' :: '\n' :: rest => skipLines rest
  | text => text

/-- What follows a backslash at the end of a line: the blanks and newlines are skipped. -/
def continuedLine? (text : List Char) : Option (List Char) :=
  (newline? (skipBlanks text)).map skipLines

/-- The rest of a string of several lines. Up to two quotes may stand before the closing three. -/
def longBasicBody (read : List Char) : Nat → Reader String
  | 0, _ => none
  | _ + 1, [] => none
  | allowed + 1, c :: rest =>
      if c = '"' then
        let quotes := leadingCount '"' 5 (c :: rest)
        if quotes < 3 then longBasicBody (c :: read) allowed rest
        else
          some (String.ofList (List.replicate (quotes - 3) '"' ++ read).reverse,
            (c :: rest).drop quotes)
      else if c = '\\' then
        match continuedLine? rest with
        | some rest => longBasicBody read allowed rest
        | none =>
            match escapeChar rest with
            | some (escaped, rest) => longBasicBody (escaped :: read) allowed rest
            | none => none
      else if isBasicChar c then longBasicBody (c :: read) allowed rest
      else
        match newline? (c :: rest) with
        | some rest => longBasicBody ('\n' :: read) allowed rest
        | none => none

def longLiteralBody (read : List Char) : Nat → Reader String
  | 0, _ => none
  | _ + 1, [] => none
  | allowed + 1, c :: rest =>
      if c = '\'' then
        let quotes := leadingCount '\'' 5 (c :: rest)
        if quotes < 3 then longLiteralBody (c :: read) allowed rest
        else
          some (String.ofList (List.replicate (quotes - 3) '\'' ++ read).reverse,
            (c :: rest).drop quotes)
      else if isLiteralChar c then longLiteralBody (c :: read) allowed rest
      else
        match newline? (c :: rest) with
        | some rest => longLiteralBody ('\n' :: read) allowed rest
        | none => none

/-- Drops a newline right behind the opening quotes. -/
def dropFirstNewline (text : List Char) : List Char := (newline? text).getD text

/-- A string of any of the four kinds. -/
def string : Reader String
  | '"' :: '"' :: '"' :: rest => longBasicBody [] (rest.length + 1) (dropFirstNewline rest)
  | '\'' :: '\'' :: '\'' :: rest => longLiteralBody [] (rest.length + 1) (dropFirstNewline rest)
  | '"' :: rest => basicBody [] (rest.length + 1) rest
  | '\'' :: rest => literalBody rest
  | _ => none

/-- One name of a key. -/
def keyName : Reader String
  | '"' :: rest => basicBody [] (rest.length + 1) rest
  | '\'' :: rest => literalBody rest
  | text =>
      let name := text.takeWhile isBareKeyChar
      if name.isEmpty then none else some (String.ofList name, text.drop name.length)

/-- The greatest number of names of a key, and of nested containers. -/
def longestKey : Nat := 79

def keyNames : Nat → Reader (List String)
  | 0, _ => none
  | allowed + 1, text => do
      let (name, rest) ← keyName (skipBlanks text)
      match skipBlanks rest with
      | '.' :: rest => do
          let (names, rest) ← keyNames allowed rest
          return (name :: names, rest)
      | rest => return ([name], rest)

/-- A key: names joined by points, blanks around them. -/
def key : Reader (List String) := keyNames longestKey

/-- Digits with single underscores between them. -/
def digitRun (isDigit : Char → Bool) (text : List Char) : List Char :=
  let digits := text.takeWhile isDigit
  if digits.isEmpty then []
  else digits ++ more text.length (text.drop digits.length)
where
  more : Nat → List Char → List Char
    | 0, _ => []
    | allowed + 1, '_' :: rest =>
        let digits := rest.takeWhile isDigit
        if digits.isEmpty then []
        else '_' :: digits ++ more allowed (rest.drop digits.length)
    | _ + 1, _ => []

def withoutUnderscores (digits : List Char) : List Char := digits.filter (· != '_')

/-- The digits of a decimal whole number without its sign; one that starts with zero is that
zero. -/
def wholeDigits (text : List Char) : List Char :=
  match text with
  | '0' :: _ => ['0']
  | _ => digitRun Char.isDigit text

def signOf : List Char → List Char
  | '+' :: _ => ['+']
  | '-' :: _ => ['-']
  | _ => []

def exponentPart (text : List Char) : List Char :=
  match text with
  | c :: rest =>
      if c = 'e' ∨ c = 'E' then
        let sign := signOf rest
        let digits := digitRun Char.isDigit (rest.drop sign.length)
        if digits.isEmpty then [] else c :: (sign ++ digits)
      else []
  | [] => []

def fractionPart (text : List Char) : List Char :=
  match text with
  | '.' :: rest =>
      let digits := digitRun Char.isDigit rest
      if digits.isEmpty then [] else '.' :: digits
  | _ => []

/-- The words for infinity and for what is no number, with an optional sign. -/
def specialDouble : Reader Double := fun text =>
  let (negative, body) := splitSign text
  match body with
  | 'i' :: 'n' :: 'f' :: rest => some (.infinite negative, rest)
  | 'n' :: 'a' :: 'n' :: rest => some (.nan, rest)
  | _ => none

/-- A number with a fraction or an exponent. One too big to be held is refused. -/
def double : Reader Double := fun text =>
  let sign := signOf text
  let whole := wholeDigits (text.drop sign.length)
  let afterWhole := text.drop (sign.length + whole.length)
  let fraction := fractionPart afterWhole
  let afterFraction := afterWhole.drop fraction.length
  let exponent := exponentPart afterFraction
  if whole.isEmpty || (fraction.isEmpty && exponent.isEmpty) then specialDouble text
  else
    match readDouble (withoutUnderscores (sign ++ whole ++ fraction ++ exponent)) with
    | some (.infinite false) => none
    | some value => some (value, afterFraction.drop exponent.length)
    | none => none

/-- A whole number in base 2, 8 or 16, read after its mark. -/
def radixInteger (radix : Nat) : Reader Int := fun text =>
  let isDigit (c : Char) : Bool := (hexDigit? c).any (· < radix)
  let digits := digitRun isDigit text
  let value := (withoutUnderscores digits).foldl
    (fun value c => value * radix + (hexDigit? c).getD 0) 0
  if digits.isEmpty || signedBound ≤ value then none else some (value, text.drop digits.length)

/-- A whole number from -2 ^ 63 to 2 ^ 63 - 1. -/
def integer : Reader Int
  | '0' :: 'x' :: rest => radixInteger 16 rest
  | '0' :: 'o' :: rest => radixInteger 8 rest
  | '0' :: 'b' :: rest => radixInteger 2 rest
  | text =>
      let sign := signOf text
      let digits := wholeDigits (text.drop sign.length)
      if digits.isEmpty then none
      else
        (readInt64 (withoutUnderscores (sign ++ digits))).map fun value =>
          (value, text.drop (sign.length + digits.length))

/-- The value of exactly the given number of digits, within bounds. -/
def fixedDigits (count least greatest : Nat) : Reader Nat := fun text =>
  let digits := text.take count
  let value := digitsValue digits
  if digits.length = count && digits.all Char.isDigit && least ≤ value && value ≤ greatest then
    some (value, text.drop count)
  else none

def character (c : Char) : Reader Unit
  | first :: rest => if first = c then some ((), rest) else none
  | [] => none

def isLeapYear (year : Nat) : Bool := year % 4 == 0 && (year % 100 != 0 || year % 400 == 0)

def daysInMonth (year month : Nat) : Nat :=
  if month = 2 then if isLeapYear year then 29 else 28
  else if month = 4 ∨ month = 6 ∨ month = 9 ∨ month = 11 then 30
  else 31

/-- A number in decimal digits, zeros in front up to the given width. -/
def padded (width value : Nat) : String :=
  let digits := toString value
  String.ofList (List.replicate (width - digits.length) '0') ++ digits

/-- A date, as its canonical text. -/
def date : Reader String := fun text => do
  let (year, rest) ← fixedDigits 4 0 9999 text
  let (_, rest) ← character '-' rest
  let (month, rest) ← fixedDigits 2 1 12 rest
  let (_, rest) ← character '-' rest
  let (day, rest) ← fixedDigits 2 1 (daysInMonth year month) rest
  return (padded 4 year ++ "-" ++ padded 2 month ++ "-" ++ padded 2 day, rest)

/-- The digits of a fraction of a second, at most nine, without zeros at the end. -/
def secondFraction (text : List Char) : String × List Char :=
  match text with
  | '.' :: rest =>
      let digits := rest.takeWhile Char.isDigit
      if digits.isEmpty then ("", text)
      else
        let kept := ((digits.take 9).reverse.dropWhile (· == '0')).reverse
        (if kept.isEmpty then "" else "." ++ String.ofList kept, rest.drop digits.length)
  | _ => ("", text)

/-- A time of day, as its canonical text. -/
def time : Reader String := fun text => do
  let (hour, rest) ← fixedDigits 2 0 23 text
  let (_, rest) ← character ':' rest
  let (minute, rest) ← fixedDigits 2 0 59 rest
  let (_, rest) ← character ':' rest
  let (second, rest) ← fixedDigits 2 0 60 rest
  let (fraction, rest) := secondFraction rest
  return (padded 2 hour ++ ":" ++ padded 2 minute ++ ":" ++ padded 2 second ++ fraction, rest)

/-- An offset from universal time; one of nothing has a plus. -/
def offset : Reader String := fun text =>
  match text with
  | [] => none
  | c :: rest =>
      if c = 'Z' ∨ c = 'z' then some ("Z", rest)
      else if c = '+' ∨ c = '-' then do
        let (hour, rest) ← fixedDigits 2 0 23 rest
        let (_, rest) ← character ':' rest
        let (minute, rest) ← fixedDigits 2 0 59 rest
        let sign := if c = '-' && hour + minute != 0 then "-" else "+"
        return (sign ++ padded 2 hour ++ ":" ++ padded 2 minute, rest)
      else none

def isTimeMark (c : Char) : Bool := c == 'T' || c == 't' || c == ' '

/-- A date, a time, or both with an optional offset. -/
def dateTime : Reader String := fun text =>
  match date text with
  | none => time text
  | some (day, rest) =>
      match rest with
      | [] => some (day, [])
      | mark :: more =>
          if isTimeMark mark then
            match time more with
            | none => some (day, rest)
            | some (moment, rest) =>
                match offset rest with
                | none => some (day ++ "T" ++ moment, rest)
                | some (shift, rest) => some (day ++ "T" ++ moment ++ shift, rest)
          else some (day, rest)

end Telemetry.Toml
