/-!
Elements of the distinguished encoding: a tag, a length in its shortest form, and that many bytes.
-/

namespace Telemetry.Trust

structure Element where
  tag : UInt8
  content : List UInt8
deriving DecidableEq, Repr

namespace Element

def sequence : UInt8 := 0x30

def integer : UInt8 := 0x02

def boolean : UInt8 := 0x01

def bitString : UInt8 := 0x03

def octetString : UInt8 := 0x04

def identifier : UInt8 := 0x06

/-- The number that bytes spell, the first one counting most. -/
def bigEndian (bytes : List UInt8) : Nat :=
  bytes.foldl (fun value byte => value * 256 + byte.toNat) 0

/-- Elements are shorter than this. -/
def lengthBound : Nat := 0xFFFF

/-- Reads a length: in one byte below 128, else in one or two bytes behind a byte that counts
them. -/
def readLength : List UInt8 → Option (Nat × List UInt8)
  | [] => none
  | first :: rest =>
      if first < 0x80 then some (first.toNat, rest)
      else if first = 0x81 then
        match rest with
        | a :: rest => if 0x80 ≤ a then some (a.toNat, rest) else none
        | _ => none
      else if first = 0x82 then
        match rest with
        | a :: b :: rest => if a = 0 then none else some (bigEndian [a, b], rest)
        | _ => none
      else none

/-- Reads one element. Tags are of one byte. -/
def read : List UInt8 → Option (Element × List UInt8)
  | [] => none
  | tag :: rest =>
      if tag % 0x20 = 0x1F then none
      else
        match readLength rest with
        | none => none
        | some (length, rest) =>
            if lengthBound ≤ length ∨ rest.length < length then none
            else some (⟨tag, rest.take length⟩, rest.drop length)

/-- Reads one element of a tag: its content and what follows. -/
def expect (tag : UInt8) (bytes : List UInt8) : Option (List UInt8 × List UInt8) :=
  match read bytes with
  | some (element, rest) => if element.tag = tag then some (element.content, rest) else none
  | none => none

/-- The content of the one element of a tag that bytes consist of. -/
def only (tag : UInt8) (bytes : List UInt8) : Option (List UInt8) :=
  match expect tag bytes with
  | some (content, []) => some content
  | _ => none

/-- Reads elements of a tag up to the end; the number of elements is bounded by the bytes. -/
def every (tag : UInt8) : Nat → List UInt8 → Option (List (List UInt8))
  | _, [] => some []
  | 0, _ => none
  | count + 1, bytes =>
      match expect tag bytes with
      | some (content, rest) => (every tag count rest).map (content :: ·)
      | none => none

end Element

end Telemetry.Trust
