import Telemetry.Trust.Armor
import Telemetry.Trust.Element

/-!
Certificates of authorities, as far as they have to be well-formed to be trusted: the third version
with its extensions, or the first version, which has none.
-/

namespace Telemetry.Trust.Certificate

open Element

/-- One extension: its identifier, whether it must be understood, and its value. -/
structure Extension where
  identifier : List UInt8
  critical : Bool
  value : List UInt8
deriving DecidableEq, Repr

def readExtension (bytes : List UInt8) : Option Extension := do
  let (identifier, rest) ← expect Element.identifier bytes
  let (critical, rest) ←
    match rest with
    | 0x01 :: _ =>
        match expect boolean rest with
        | some ([0xFF], rest) => some (true, rest)
        | some ([0x00], rest) => some (false, rest)
        | _ => none
    | _ => some (false, rest)
  let value ← only octetString rest
  return ⟨identifier, critical, value⟩

/-- The last part of the identifiers of the extensions that are understood. The first one holds
bits, the others a sequence each. -/
def understood : List UInt8 := [15, 17, 19, 30, 31, 37]

def usageKind : UInt8 := 15

/-- The kind of an extension of the standard family. -/
def standardKind? (extension : Extension) : Option UInt8 :=
  match extension.identifier with
  | [0x55, 0x1D, kind] => some kind
  | _ => none

/-- The extension that tells where to ask about an authority; it may be critical and is passed
over. -/
def authorityAccess : List UInt8 := [0x2B, 0x06, 0x01, 0x05, 0x05, 0x07, 0x01, 0x01]

def isFitExtension (extension : Extension) : Bool :=
  match standardKind? extension with
  | some kind =>
      if understood.contains kind then
        kind == usageKind || (only sequence extension.value).isSome
      else !extension.critical
  | none => extension.identifier == authorityAccess || !extension.critical

/-- Whether no kind that is understood comes twice. -/
def areDistinct (extensions : List Extension) : Bool :=
  let kinds := (extensions.filterMap standardKind?).filter understood.contains
  kinds.all (fun kind => kinds.count kind == 1)

def areFitExtensions (bytes : List UInt8) : Bool :=
  match (only 0xA3 bytes).bind (only sequence) with
  | none => false
  | some content =>
      match (every sequence content.length content).bind (·.mapM readExtension) with
      | none => false
      | some extensions => extensions.all isFitExtension && areDistinct extensions

/-- Passes over elements of the given tags. -/
def skip : List UInt8 → List UInt8 → Option (List UInt8)
  | [], bytes => some bytes
  | tag :: tags, bytes => (expect tag bytes).bind (fun (_, rest) => skip tags rest)

/-- Whether bytes are the inner part of a certificate of the third version that names the given
algorithm. -/
def isInnerThird (algorithm bytes : List UInt8) : Bool :=
  match expect 0xA0 bytes with
  | some ([0x02, 0x01, 0x02], rest) =>
      match (skip [integer] rest).bind (expect sequence) with
      | some (named, rest) =>
          named == algorithm &&
            match skip [sequence, sequence, sequence, sequence] rest with
            | some [] => true
            | some extensions => areFitExtensions extensions
            | none => false
      | none => false
  | _ => false

/-- Whether bytes are the inner part of a certificate of the first version. -/
def isInnerFirst (bytes : List UInt8) : Bool :=
  skip [integer, sequence, sequence, sequence, sequence, sequence] bytes == some []

/-- Whether bytes are a certificate. -/
def isFit (bytes : List UInt8) : Bool :=
  match (only sequence bytes).bind (expect sequence) with
  | none => false
  | some (inner, rest) =>
      match expect sequence rest with
      | none => false
      | some (algorithm, rest) =>
          match only bitString rest with
          | none => false
          | some signature =>
              (signature.head? == some 0 && isInnerThird algorithm inner) || isInnerFirst inner

def label : List Char := "CERTIFICATE".toList

/-- Whether a file of authorities can be used: its blocks can be read, and those that are to be
certificates are. -/
def areAuthorities (file : List UInt8) : Bool :=
  match Armor.blocks (file.map (fun byte => Char.ofNat byte.toNat)) with
  | none => false
  | some blocks =>
      blocks.all (fun block => block.label != label || isFit block.bytes)

end Telemetry.Trust.Certificate
