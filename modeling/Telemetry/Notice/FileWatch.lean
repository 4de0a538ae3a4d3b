import Telemetry.Error
import Telemetry.Files.Tree
import Telemetry.Notice.Basic

/-!
The watch on a file. The directory that holds the file is watched, and what is reported of other
names in it is dropped; a file that takes the place of the watched one is seen in this way.
-/

namespace Telemetry

/-- A watch that has been started. -/
structure FileWatch where
  path : String
  /-- The name whose reports are passed on. -/
  fileName : String
  directory : String
deriving DecidableEq, Repr

namespace FileWatch

/-- The directory that holds the file of a path. -/
def directoryOf (path : String) : String :=
  match Files.parent? path with
  | some directory => if directory = "" then "." else directory
  | none => "."

/-- Starts to watch the file of a path. The file may be missing, while its directory may not. -/
def start (files : Files.Tree) (path : String) : Except Error FileWatch :=
  match Files.fileName? path with
  | none => .error (.invalid (.notAFile path))
  | some fileName =>
      let directory := directoryOf path
      match Files.resolve files directory with
      | .error fault => .error (.system (.watch fault directory))
      | .ok (_, none) => .error (.system (.watch .noEntry directory))
      | .ok (_, some _) => .ok ⟨path, fileName, directory⟩

/-- The notice of a report, if it is about the watched name. -/
def forward (watch : FileWatch) (event : FileEvent) : Option Notice :=
  (event.paths.find? (fun path => Files.fileName? path == some watch.fileName)).map fun path =>
    ⟨NoticeKind.ofFileEvent event.kind, path⟩

/-- What happened to a file, from what stood in its place before and stands there after. -/
def change? (before after : Option Files.Node) : Option FileEventKind :=
  match before, after with
  | none, none => none
  | none, some _ => some (.create .file)
  | some _, none => some (.remove .file)
  | some old, some new => if old = new then none else some (.modify (.data .any))

/-- Whether the file of a path lies in the watched directory. -/
def covers (watch : FileWatch) (files : Files.Tree) (path : String) : Bool :=
  match Files.resolve files watch.directory, Files.resolve files (directoryOf path) with
  | .ok (watched, _), .ok (changed, _) => watched == changed
  | _, _ => false

/-- The notice that follows from a change to the file of a path, if the watch is concerned. -/
def noticeOf (watch : FileWatch) (files : Files.Tree) (kind : FileEventKind) (path : String) :
    Option Notice :=
  if watch.covers files path then watch.forward ⟨kind, [path]⟩ else none

end FileWatch

end Telemetry
