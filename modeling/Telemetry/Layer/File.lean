import Telemetry.Error
import Telemetry.Files.Tree
import Telemetry.Layer.KeyPath
import Telemetry.Text.Utf8
import Telemetry.Toml.Document

/-!
A configuration file as a layer: how it is looked up, and how its text becomes keys with trees.
-/

namespace Telemetry.Layer

def fileExtension : String := "toml"

/-- The file that a path names: the file itself, which has to have the format's extension, or else
the one with that extension added. The empty path, a dot and whatever else leads to the working
directory without a name in it are taken as they stand, so that no file is found for them: the
extension is not added to the name of the working directory. -/
def findFile (files : Files.Tree) (path : String) : Except ConfigError String :=
  if Files.isFile files path then
    if (Files.fileName? path).bind Files.extension? = some fileExtension then .ok path
    else .error (.unknownFileFormat path)
  else
    match Files.withAddedText path ("." ++ fileExtension) with
    | none => .error (.fileNotFound path)
    | some longer =>
        if Files.isFile files longer then .ok longer else .error (.fileNotFound path)

def byteOrderMark : Char := Char.ofNat 0xFEFF

/-- The text of a file without the mark that may stand in front of it. -/
def fileText (bytes : List UInt8) : Except ConfigError (List Char) :=
  match Text.Utf8.decode? bytes with
  | none => .error .notText
  | some (c :: rest) => .ok (if c = byteOrderMark then rest else c :: rest)
  | some [] => .ok []

mutual

/-- A value of a file as a tree whose values come from there. -/
def ofToml (origin : String) : Toml.Value → Node
  | .string value => .leaf (some origin) (.text value)
  | .integer value => .leaf (some origin) (.integer value)
  | .double value => .leaf (some origin) (.double value)
  | .bool value => .leaf (some origin) (.bool value)
  | .dateTime value => .leaf (some origin) (.text value)
  | .array items => .list (some origin) (ofTomlItems origin items)
  | .table entries => .table (some origin) (ofTomlEntries origin entries)

def ofTomlItems (origin : String) : List Toml.Value → List Node
  | [] => []
  | item :: items => ofToml origin item :: ofTomlItems origin items

def ofTomlEntries (origin : String) : List (String × Toml.Value) → List (String × Node)
  | [] => []
  | (key, value) :: entries => (key, ofToml origin value) :: ofTomlEntries origin entries

end

/-- The layer that the bytes of a file spell. -/
def ofBytes (origin : String) (bytes : List UInt8) : Except ConfigError Entries :=
  match fileText bytes with
  | .error reason => .error reason
  | .ok text =>
      match Toml.parse text with
      | none => .error .badSyntax
      | some entries => .ok (ofTomlEntries origin entries)

/-- The layer of the file that a path names. -/
def fileLayer (files : Files.Tree) (path : String) : Except ConfigError Entries :=
  match findFile files path with
  | .error reason => .error reason
  | .ok found =>
      match Files.read files found with
      | .error fault => .error (.unreadableFile fault)
      | .ok bytes => ofBytes (Files.normalized found) bytes

end Telemetry.Layer
