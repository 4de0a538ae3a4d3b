import Telemetry.Text.LetterTable

/-!
Lower-casing of text. Each character goes to its lower-case partner; a capital sigma at the end of
a word takes the final form.
-/

namespace Telemetry.Text

def capitalSigma : Char := 'Σ'

/-- The lower-case partner of a character beyond ASCII, itself when it has none. -/
def lowerByTable (c : Char) : Char :=
  match loweringRuns.find? (fun run => run.first ≤ c.toNat && c.toNat ≤ run.last) with
  | some run =>
      if (c.toNat - run.first) % run.step = 0 then Char.ofNat (run.lower + (c.toNat - run.first))
      else c
  | none => c

/-- The lower-case form of a character, apart from the final sigma. The dotted capital I goes to
two characters. -/
def lowerChar (c : Char) : List Char :=
  if c.toNat < 0x80 then [c.toLower]
  else if c.toNat = 0x130 then ['i', Char.ofNat 0x307]
  else [lowerByTable c]

def isCased (c : Char) : Bool :=
  if c.toNat < 0x80 then c.isAlpha else CodeRange.covers casedRanges c.toNat

def isCaseIgnorable (c : Char) : Bool := CodeRange.covers caseIgnorableRanges c.toNat

/-- Whether the first character that case rules do not look through has a case. -/
def meetsCased (text : List Char) : Bool :=
  match text.dropWhile isCaseIgnorable with
  | c :: _ => isCased c
  | [] => false

/-- Lower-cases the rest of a text; before holds the characters already passed, last one first. -/
def lowerAfter (before : List Char) : List Char → List Char
  | [] => []
  | c :: rest =>
      if c = capitalSigma then
        (if meetsCased before && !meetsCased rest then 'ς' else 'σ') ::
          lowerAfter (c :: before) rest
      else lowerChar c ++ lowerAfter (c :: before) rest

def lowerChars (text : List Char) : List Char := lowerAfter [] text

def lowercase (text : String) : String := String.ofList (lowerChars text.toList)

end Telemetry.Text
