/-!
Bytes written in groups of four characters out of sixty-four, padded at the end.
-/

namespace Telemetry.Trust.Base64

def letterValue? (c : Char) : Option Nat :=
  if 'A' ≤ c ∧ c ≤ 'Z' then some (c.toNat - 'A'.toNat)
  else if 'a' ≤ c ∧ c ≤ 'z' then some (c.toNat - 'a'.toNat + 26)
  else if '0' ≤ c ∧ c ≤ '9' then some (c.toNat - '0'.toNat + 52)
  else if c = '+' then some 62
  else if c = '/' then some 63
  else none

def isSkipped (c : Char) : Bool :=
  c == ' ' || c == '\n' || c == '\r' || c == '\t' || c.toNat == 0xB || c.toNat == 0xC

def padding : Char := '='

/-- The bytes of groups without blanks between them. Only the last group may be padded. -/
def decodeGroups : List Char → Option (List UInt8)
  | [] => some []
  | [a, b, c, d] => do
      let a ← letterValue? a
      let b ← letterValue? b
      let first := UInt8.ofNat (a * 4 + b / 16)
      if c = padding then
        if d = padding then return [first] else none
      else
        let c ← letterValue? c
        let second := UInt8.ofNat (b % 16 * 16 + c / 4)
        if d = padding then return [first, second]
        else
          let d ← letterValue? d
          return [first, second, UInt8.ofNat (c % 4 * 64 + d)]
  | a :: b :: c :: d :: rest => do
      let a ← letterValue? a
      let b ← letterValue? b
      let c ← letterValue? c
      let d ← letterValue? d
      let more ← decodeGroups rest
      return UInt8.ofNat (a * 4 + b / 16) :: UInt8.ofNat (b % 16 * 16 + c / 4) ::
        UInt8.ofNat (c % 4 * 64 + d) :: more
  | _ => none

/-- The bytes that a text spells, blanks left out. -/
def decode (text : List Char) : Option (List UInt8) :=
  decodeGroups (text.filter (fun c => !isSkipped c))

end Telemetry.Trust.Base64
