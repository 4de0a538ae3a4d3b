/-!
Path texts. A path is a sequence of names between slashes; doubled slashes, a slash at the end and
the name of the directory itself, except in front, say nothing.
-/

namespace Telemetry.Files

/-- The pieces of a text between slashes. -/
def splitSlashes : List Char → List (List Char)
  | [] => [[]]
  | c :: rest =>
      if c = '/' then [] :: splitSlashes rest
      else
        match splitSlashes rest with
        | [] => [[c]]
        | piece :: more => (c :: piece) :: more

def isAbsolute (path : String) : Bool := path.toList.head? == some '/'

/-- The names that a path goes through, with what says nothing left out. -/
def segments (path : String) : List String :=
  ((splitSlashes path.toList).map String.ofList).filter (fun name => name != "" && name != ".")

/-- Whether a piece at the end of a path says nothing. -/
def isSilent (piece : List Char) : Bool := piece.isEmpty || piece == ['.']

/-- The pieces of a path with the silent ones at the end left out. A leading name of the directory
itself stays. -/
def trimmedPieces (path : String) : List (List Char) :=
  match splitSlashes path.toList with
  | [] => []
  | first :: more =>
      let kept := (more.reverse.dropWhile isSilent).reverse
      first :: kept

def joinSlashes (pieces : List (List Char)) : String :=
  String.ofList (List.intercalate ['/'] pieces)

/-- The last name of a path, unless the path ends in a step upwards or names no file at all. -/
def fileName? (path : String) : Option String :=
  match (trimmedPieces path).getLast? with
  | some piece =>
      if isSilent piece || piece == ['.', '.'] then none else some (String.ofList piece)
  | none => none

/-- The path without its last name; the empty text when it has one name only. -/
def parent? (path : String) : Option String :=
  match trimmedPieces path with
  | [] => none
  | [only] => if only.isEmpty then none else some ""
  | first :: more =>
      let kept := (more.dropLast.reverse.dropWhile isSilent).reverse
      if first.isEmpty && kept.isEmpty then some "/" else some (joinSlashes (first :: kept))

/-- What follows the last point of a file name, unless the name starts with that point. -/
def extension? (name : String) : Option String :=
  let characters := name.toList
  let after := characters.reverse.takeWhile (· != '.')
  if characters.length ≤ after.length + 1 then none else some (String.ofList after.reverse)

/-- The path whose last name has the given text added, if the path names a file. -/
def withAddedText (path addition : String) : Option String :=
  (fileName? path).map fun _ => joinSlashes (trimmedPieces path) ++ addition

/-- The path without what says nothing. -/
def normalized (path : String) : String :=
  (if isAbsolute path then "/" else "") ++ String.intercalate "/" (segments path)

end Telemetry.Files
