import Telemetry.Trust.Base64

/-!
Armoured blocks of bytes in a text. A block stands between a line that begins it and a line that
ends it, both of which give its label; what stands outside of blocks says nothing.
-/

namespace Telemetry.Trust

/-- A block with its label and its bytes. -/
structure Block where
  label : List Char
  bytes : List UInt8
deriving DecidableEq, Repr

namespace Armor

def beginMark : List Char := "-----BEGIN ".toList

def endMark : List Char := "-----END ".toList

def dashes : List Char := "-----".toList

def isLineEnd (c : Char) : Bool := c == '\n' || c == '\r'

/-- The lines of a text, without what ends them. -/
def lines : List Char → List (List Char)
  | [] => [[]]
  | c :: rest =>
      if isLineEnd c then [] :: lines rest
      else
        match lines rest with
        | [] => [[c]]
        | line :: more => (c :: line) :: more

/-- The label on a line that begins a block, which ends in exactly five dashes. Blanks behind the
dashes and among them do not count. -/
def labelOf (line : List Char) : Option (List Char) :=
  let tail := line.reverse.takeWhile (fun c => c == '-' || c == ' ')
  if tail.count '-' = 5 then
    let beyond := (tail.reverse.dropWhile (· == ' ')).length
    some ((line.take (line.length - beyond)).drop beginMark.length)
  else none

/-- Labels of the blocks whose bytes are looked at. Other blocks are passed over unread. -/
def knownLabels : List (List Char) :=
  ["CERTIFICATE", "PUBLIC KEY", "RSA PRIVATE KEY", "PRIVATE KEY", "EC PRIVATE KEY", "X509 CRL",
    "CERTIFICATE REQUEST", "ECHCONFIG"].map String.toList

/-- Goes over lines: the label and the text of the block that is open, if one is. -/
def blocksAfter : Option (List Char × List Char) → List (List Char) → Option (List Block)
  | none, [] => some []
  | some _, [] => none
  | opened, line :: rest =>
      if beginMark.isPrefixOf line then
        match labelOf line with
        | none => none
        | some label => blocksAfter (some (label, (opened.map (·.2)).getD [])) rest
      else
        match opened with
        | none => blocksAfter none rest
        | some (label, body) =>
            if (endMark ++ label ++ dashes).isPrefixOf line then
              if knownLabels.contains label then
                match Base64.decode body with
                | none => none
                | some bytes => (blocksAfter none rest).map (⟨label, bytes⟩ :: ·)
              else blocksAfter none rest
            else blocksAfter (some (label, body ++ line)) rest

/-- The blocks of a text; a block that is not ended or that cannot be read spoils the text. -/
def blocks (text : List Char) : Option (List Block) := blocksAfter none (lines text)

end Armor

end Telemetry.Trust
