/-!
Characters from bytes. Decoding goes through any byte string and yields, in turn, the characters
it spells and the pieces that spell none; a piece that spells none is the longest start of some
character that stands there, or one byte.
-/

namespace Telemetry.Text.Utf8

def replacement : Char := Char.ofNat 0xFFFD

/-- A piece of a byte string: a character, or bytes that belong to none. -/
inductive Piece where
  | char (c : Char)
  | invalid
deriving DecidableEq, Repr

def isTail (b : Nat) : Bool := 0x80 ≤ b && b ≤ 0xBF

/-- The least and the greatest byte allowed after a first byte, and how many bytes follow it. -/
def following (first : Nat) : Option (Nat × Nat × Nat) :=
  if 0xC2 ≤ first && first ≤ 0xDF then some (0x80, 0xBF, 1)
  else if first = 0xE0 then some (0xA0, 0xBF, 2)
  else if first = 0xED then some (0x80, 0x9F, 2)
  else if 0xE1 ≤ first && first ≤ 0xEF then some (0x80, 0xBF, 2)
  else if first = 0xF0 then some (0x90, 0xBF, 3)
  else if 0xF1 ≤ first && first ≤ 0xF3 then some (0x80, 0xBF, 3)
  else if first = 0xF4 then some (0x80, 0x8F, 3)
  else none

/-- The part of the code point that a first byte carries. -/
def leadBits (first : Nat) : Nat :=
  if first < 0xE0 then first % 0x20 else if first < 0xF0 then first % 0x10 else first % 0x08

/-- Takes up to the given number of tail bytes: the bits they add to a code point, whether all
were there, and how many were taken. -/
def takeTails (code : Nat) : Nat → List UInt8 → Nat × Bool × Nat
  | 0, _ => (code, true, 0)
  | _ + 1, [] => (code, false, 0)
  | count + 1, b :: rest =>
      if isTail b.toNat then
        let (full, complete, taken) := takeTails (code * 64 + b.toNat % 64) count rest
        (full, complete, taken + 1)
      else (code, false, 0)

/-- The first piece of a byte string that starts with the given byte, and the number of further
bytes that belong to it. -/
def firstPiece (first : UInt8) (rest : List UInt8) : Piece × Nat :=
  if first.toNat < 0x80 then (.char (Char.ofNat first.toNat), 0)
  else
    match following first.toNat with
    | none => (.invalid, 0)
    | some (least, greatest, count) =>
        match rest with
        | [] => (.invalid, 0)
        | second :: more =>
            if least ≤ second.toNat && second.toNat ≤ greatest then
              let (code, complete, taken) :=
                takeTails (leadBits first.toNat * 64 + second.toNat % 64) (count - 1) more
              (if complete then .char (Char.ofNat code) else .invalid, taken + 1)
            else (.invalid, 0)

def pieces : List UInt8 → List Piece
  | [] => []
  | first :: rest =>
      let (piece, taken) := firstPiece first rest
      piece :: pieces (rest.drop taken)
termination_by bytes => bytes.length
decreasing_by simp only [List.length_drop, List.length_cons]; omega

/-- The text that bytes spell, with one replacement character for each piece that spells none. -/
def decodeLossy (bytes : List UInt8) : List Char :=
  (pieces bytes).map fun
    | .char c => c
    | .invalid => replacement

/-- The text that bytes spell, if every piece spells a character. -/
def decode? (bytes : List UInt8) : Option (List Char) :=
  (pieces bytes).mapM fun
    | .char c => some c
    | .invalid => none

/-- The bytes that spell a text. -/
def encode (text : List Char) : List UInt8 :=
  (String.ofList text).toUTF8.toList

end Telemetry.Text.Utf8
