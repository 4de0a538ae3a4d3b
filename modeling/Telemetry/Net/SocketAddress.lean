import Telemetry.Text.Hex

/-!
Socket addresses: an address of version 4 or 6 and a port, as text.
-/

namespace Telemetry.Net

/-- An address of either version, version 4 by its four bytes, version 6 by its eight groups. -/
inductive Ip where
  | v4 (bytes : List Nat)
  | v6 (groups : List Nat)
deriving DecidableEq, Repr

structure SocketAddress where
  ip : Ip
  /-- The scope of a version 6 address, 0 when it has none. -/
  scope : Nat
  port : Nat
deriving DecidableEq, Repr

/-- A reader takes a value off the front of a text, or refuses. -/
abbrev Taker (α : Type) := List Char → Option (α × List Char)

def digitValue? (radix : Nat) (c : Char) : Option Nat := (Text.hexValue? c).filter (· < radix)

def isRadixDigit (radix : Nat) (c : Char) : Bool := (digitValue? radix c).isSome

/-- A number of at least one digit, at most as many digits as allowed, not above the greatest. -/
def takeNumber (radix : Nat) (mostDigits : Option Nat) (leadingZero : Bool) (greatest : Nat) :
    Taker Nat := fun text =>
  let digits := text.takeWhile (isRadixDigit radix)
  let value := digits.foldl (fun value c => value * radix + (digitValue? radix c).getD 0) 0
  if digits.isEmpty then none
  else if mostDigits.any (· < digits.length) then none
  else if !leadingZero && digits.head? == some '0' && 1 < digits.length then none
  else if greatest < value then none
  else some (value, text.drop digits.length)

def takeChar (c : Char) : Taker Unit
  | [] => none
  | first :: rest => if first = c then some ((), rest) else none

/-- Four bytes between points. -/
def takeV4 : Taker (List Nat) := fun text => do
  let (a, rest) ← takeNumber 10 (some 3) false 255 text
  let (_, rest) ← takeChar '.' rest
  let (b, rest) ← takeNumber 10 (some 3) false 255 rest
  let (_, rest) ← takeChar '.' rest
  let (c, rest) ← takeNumber 10 (some 3) false 255 rest
  let (_, rest) ← takeChar '.' rest
  let (d, rest) ← takeNumber 10 (some 3) false 255 rest
  return ([a, b, c, d], rest)

/-- Reads what follows a colon, or stands at the start of the groups. -/
def afterColon (first : Bool) (take : Taker α) : Taker α := fun text =>
  if first then take text
  else do
    let (_, rest) ← takeChar ':' text
    take rest

/-- Groups between colons, at most as many as there is room for: the groups, whether the last two
were written as four bytes, and what follows. -/
def takeGroups (first : Bool) : Nat → List Char → List Nat × Bool × List Char
  | 0, text => ([], false, text)
  | room + 1, text =>
      let embedded := if 0 < room then afterColon first takeV4 text else none
      match embedded with
      | some ([a, b, c, d], rest) => ([a * 256 + b, c * 256 + d], true, rest)
      | _ =>
          match afterColon first (takeNumber 16 (some 4) true 0xFFFF) text with
          | some (group, rest) =>
              let (groups, v4Ended, rest) := takeGroups false room rest
              (group :: groups, v4Ended, rest)
          | none => ([], false, text)

/-- Eight groups, or fewer around one doubled colon. -/
def takeV6 : Taker (List Nat) := fun text =>
  let (head, v4Ended, rest) := takeGroups true 8 text
  if head.length = 8 then some (head, rest)
  else if v4Ended then none
  else do
    let (_, rest) ← takeChar ':' rest
    let (_, rest) ← takeChar ':' rest
    let (tail, _, rest) := takeGroups true (7 - head.length) rest
    return (head ++ List.replicate (8 - head.length - tail.length) 0 ++ tail, rest)

def takePort : Taker Nat := fun text => do
  let (_, rest) ← takeChar ':' text
  takeNumber 10 none true 65535 rest

def takeScope : Taker Nat := fun text =>
  match text with
  | '%' :: rest => takeNumber 10 none true 4294967295 rest
  | _ => some (0, text)

def takeSocketAddress : Taker SocketAddress := fun text =>
  match takeV4 text with
  | some (bytes, rest) => do
      let (port, rest) ← takePort rest
      return (⟨.v4 bytes, 0, port⟩, rest)
  | none => do
      let (_, rest) ← takeChar '[' text
      let (groups, rest) ← takeV6 rest
      let (scope, rest) ← takeScope rest
      let (_, rest) ← takeChar ']' rest
      let (port, rest) ← takePort rest
      return (⟨.v6 groups, scope, port⟩, rest)

/-- The value of a text that a reader takes as a whole. -/
def whole? (take : Taker α) (text : String) : Option α :=
  match take text.toList with
  | some (value, []) => some value
  | _ => none

def SocketAddress.parse? (text : String) : Option SocketAddress := whole? takeSocketAddress text

def Ip.parse? (text : String) : Option Ip :=
  match whole? takeV4 text with
  | some bytes => some (.v4 bytes)
  | none => (whole? takeV6 text).map .v6

def hexText (n : Nat) : String := String.ofList (Nat.toDigits 16 n)

def v4Text (bytes : List Nat) : String := String.intercalate "." (bytes.map toString)

/-- The start and the length of the first longest run of zeros. -/
def longestZeroRun (groups : List Nat) : Nat × Nat :=
  let runs := (List.range groups.length).map fun start =>
    (start, ((groups.drop start).takeWhile (· == 0)).length)
  runs.foldl (fun best run => if best.2 < run.2 then run else best) (0, 0)

def v6Text (groups : List Nat) : String :=
  match groups with
  | [0, 0, 0, 0, 0, 0xFFFF, high, low] =>
      "::ffff:" ++ v4Text [high / 256, high % 256, low / 256, low % 256]
  | _ =>
      let colonText (part : List Nat) := String.intercalate ":" (part.map hexText)
      let (start, length) := longestZeroRun groups
      if 1 < length then
        colonText (groups.take start) ++ "::" ++ colonText (groups.drop (start + length))
      else colonText groups

def Ip.text : Ip → String
  | .v4 bytes => v4Text bytes
  | .v6 groups => v6Text groups

def SocketAddress.text (address : SocketAddress) : String :=
  match address.ip with
  | .v4 bytes => v4Text bytes ++ ":" ++ toString address.port
  | .v6 groups =>
      "[" ++ v6Text groups ++ (if address.scope = 0 then "" else "%" ++ toString address.scope) ++
        "]:" ++ toString address.port

end Telemetry.Net
