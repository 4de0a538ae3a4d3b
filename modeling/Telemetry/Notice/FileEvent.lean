/-!
What the system reports of the files in a watched directory.
-/

namespace Telemetry

/-- How a file was opened. -/
inductive AccessMode where
  | any
  | execute
  | read
  | write
  | other
deriving DecidableEq, Repr

inductive AccessKind where
  | any
  | read
  | opened (mode : AccessMode)
  | closed (mode : AccessMode)
  | other
deriving DecidableEq, Repr

/-- What was created or removed. -/
inductive EntryKind where
  | any
  | file
  | folder
  | other
deriving DecidableEq, Repr

inductive DataChange where
  | any
  | size
  | content
  | other
deriving DecidableEq, Repr

inductive MetadataChange where
  | any
  | accessTime
  | writeTime
  | permissions
  | ownership
  | extended
  | other
deriving DecidableEq, Repr

/-- The side of a renaming that is reported. -/
inductive RenameSide where
  | any
  /-- Something was renamed to the name. -/
  | to
  /-- The name was given up. -/
  | source
  | both
  | other
deriving DecidableEq, Repr

inductive ModifyKind where
  | any
  | data (change : DataChange)
  | metadata (change : MetadataChange)
  | name (side : RenameSide)
  | other
deriving DecidableEq, Repr

inductive FileEventKind where
  | any
  | access (kind : AccessKind)
  | create (entry : EntryKind)
  | modify (kind : ModifyKind)
  | remove (entry : EntryKind)
  | other
deriving DecidableEq, Repr

/-- One report and the paths it is about. -/
structure FileEvent where
  kind : FileEventKind
  paths : List String
deriving DecidableEq, Repr

/-! Every kind has a name, in which points lead from the general to the particular. -/

def AccessMode.ofName? : String → Option AccessMode
  | "any" => some .any
  | "execute" => some .execute
  | "read" => some .read
  | "write" => some .write
  | "other" => some .other
  | _ => none

def EntryKind.ofName? : String → Option EntryKind
  | "any" => some .any
  | "file" => some .file
  | "folder" => some .folder
  | "other" => some .other
  | _ => none

def DataChange.ofName? : String → Option DataChange
  | "any" => some .any
  | "size" => some .size
  | "content" => some .content
  | "other" => some .other
  | _ => none

def MetadataChange.ofName? : String → Option MetadataChange
  | "any" => some .any
  | "access_time" => some .accessTime
  | "write_time" => some .writeTime
  | "permissions" => some .permissions
  | "ownership" => some .ownership
  | "extended" => some .extended
  | "other" => some .other
  | _ => none

def RenameSide.ofName? : String → Option RenameSide
  | "any" => some .any
  | "to" => some .to
  | "from" => some .source
  | "both" => some .both
  | "other" => some .other
  | _ => none

/-- The kind of a name that is given in its parts. -/
def FileEventKind.ofNames? : List String → Option FileEventKind
  | ["any"] => some .any
  | ["other"] => some .other
  | ["access", "any"] => some (.access .any)
  | ["access", "read"] => some (.access .read)
  | ["access", "other"] => some (.access .other)
  | ["access", "open", mode] => (AccessMode.ofName? mode).map fun mode => .access (.opened mode)
  | ["access", "close", mode] => (AccessMode.ofName? mode).map fun mode => .access (.closed mode)
  | ["create", entry] => (EntryKind.ofName? entry).map .create
  | ["remove", entry] => (EntryKind.ofName? entry).map .remove
  | ["modify", "any"] => some (.modify .any)
  | ["modify", "other"] => some (.modify .other)
  | ["modify", "data", change] =>
      (DataChange.ofName? change).map fun change => .modify (.data change)
  | ["modify", "metadata", change] =>
      (MetadataChange.ofName? change).map fun change => .modify (.metadata change)
  | ["modify", "name", side] => (RenameSide.ofName? side).map fun side => .modify (.name side)
  | _ => none

def FileEventKind.ofName? (name : String) : Option FileEventKind := ofNames? (name.splitOn ".")

end Telemetry
