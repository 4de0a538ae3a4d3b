import Telemetry.Files.Fault
import Telemetry.Files.Path
import Telemetry.NameMap

/-!
Files and directories. Paths are followed name by name, as the system follows them: every name but
the last has to be that of a directory. A path that does not start at the root starts at the working
directory. There are no symbolic links: a node has one place and one name.
-/

namespace Telemetry.Files

inductive Node where
  | file (bytes : List UInt8)
  | directory
deriving DecidableEq, Repr

/-- Nodes by the names that lead to them from the root, joined by slashes. The directory that holds
a node is a node as well, and so is the working directory. -/
structure Tree where
  /-- The names that lead to the working directory. -/
  working : List String
  nodes : NameMap Node
deriving DecidableEq, Repr

def joinNames (names : List String) : String := String.intercalate "/" names

/-- The ways to a directory and to all directories above it. -/
def waysTo (names : List String) : List (List String) :=
  (List.range names.length).map (fun count => names.take (count + 1))

namespace Tree

/-- A tree with nothing but a working directory. -/
def empty (working : List String) : Tree :=
  ⟨working, NameMap.ofList ((waysTo working).map fun names => (joinNames names, .directory))⟩

/-- The node that names lead to. -/
def at? (tree : Tree) (names : List String) : Option Node :=
  if names.isEmpty then some .directory else tree.nodes.get? (joinNames names)

def put (tree : Tree) (names : List String) (node : Node) : Tree :=
  { tree with nodes := tree.nodes.insert (joinNames names) node }

def erase (tree : Tree) (names : List String) : Tree :=
  { tree with nodes := tree.nodes.erase (joinNames names) }

end Tree

/-- One step from a directory; a step upwards from the root stays there. -/
def step (names : List String) (name : String) : List String :=
  if name = ".." then names.dropLast else names ++ [name]

def longestName : Nat := 255

def longestPath : Nat := 4095

/-- Follows names from a place that has to be a directory; the last one need not exist. The second
part of the result is the node found there. -/
def follow (tree : Tree) (place : List String) :
    List String → Except Fault (List String × Option Node)
  | [] => .ok (place, tree.at? place)
  | name :: rest =>
      match tree.at? place with
      | none => .error .noEntry
      | some (.file _) => .error .notDirectory
      | some .directory =>
          if longestName < name.utf8ByteSize then .error .nameTooLong
          else follow tree (step place name) rest

/-- Whether the end of a path says that it leads to a directory. -/
def endsAsDirectory (path : String) : Bool :=
  match (splitSlashes path.toList).getLast? with
  | some piece => isSilent piece
  | none => false

/-- The place and the node that a path leads to. -/
def resolve (tree : Tree) (path : String) : Except Fault (List String × Option Node) :=
  if path.toList.contains (Char.ofNat 0) then .error .nulByte
  else if path = "" then .error .noEntry
  else if longestPath < path.utf8ByteSize then .error .nameTooLong
  else
    match follow tree (if isAbsolute path then [] else tree.working) (segments path) with
    | .error fault => .error fault
    | .ok (place, some (.file bytes)) =>
        if endsAsDirectory path then .error .notDirectory else .ok (place, some (.file bytes))
    | .ok found => .ok found

def node? (tree : Tree) (path : String) : Option Node :=
  match resolve tree path with
  | .ok (_, node?) => node?
  | .error _ => none

def exists? (tree : Tree) (path : String) : Bool := (node? tree path).isSome

def isFile (tree : Tree) (path : String) : Bool :=
  match node? tree path with
  | some (.file _) => true
  | _ => false

def isDirectory (tree : Tree) (path : String) : Bool := node? tree path == some .directory

/-- The bytes of a file. -/
def read (tree : Tree) (path : String) : Except Fault (List UInt8) :=
  match resolve tree path with
  | .ok (_, some (.file bytes)) => .ok bytes
  | .ok (_, some .directory) => .error .isDirectory
  | .ok (_, none) => .error .noEntry
  | .error fault => .error fault

/-- Makes one directory. -/
def makeDirectory (tree : Tree) (path : String) : Except Fault Tree :=
  match resolve tree path with
  | .error .notDirectory =>
      if endsAsDirectory path && isFile tree (joinSlashes (trimmedPieces path)) then .error .exists
      else .error .notDirectory
  | .error fault => .error fault
  | .ok (_, some _) => .error .exists
  | .ok (names, none) => .ok (tree.put names .directory)

/-- Makes a directory and the missing ones above it. The number of attempts bounds how many names
the path may lose on the way up. -/
def makeDirectories (tree : Tree) : Nat → String → Except Fault Tree
  | 0, _ => .error .noEntry
  | attempts + 1, path =>
      if path = "" then .ok tree
      else
        match makeDirectory tree path with
        | .ok tree => .ok tree
        | .error .noEntry =>
            match parent? path with
            | none => .error (.other "failed to create whole tree")
            | some parent =>
                match makeDirectories tree attempts parent with
                | .error fault => .error fault
                | .ok tree =>
                    match makeDirectory tree path with
                    | .ok tree => .ok tree
                    | .error fault => if isDirectory tree path then .ok tree else .error fault
        | .error fault => if isDirectory tree path then .ok tree else .error fault

/-- Makes the directory that is to hold a file, unless it exists. -/
def ensureParent (tree : Tree) (path : String) : Except Fault Tree :=
  match parent? path with
  | none => .ok tree
  | some parent =>
      if parent = "" || exists? tree parent then .ok tree
      else makeDirectories tree (path.length + 1) parent

/-- The place at which a file may be opened for writing, made empty when it is missing. -/
def openForWriting (tree : Tree) (path : String) : Except Fault (Tree × List String × List UInt8) :=
  match resolve tree path with
  | .error fault => .error fault
  | .ok (names, some (.file bytes)) => .ok (tree, names, bytes)
  | .ok (_, some .directory) => .error .isDirectory
  | .ok (names, none) =>
      if endsAsDirectory path then .error .isDirectory
      else .ok (tree.put names (.file []), names, [])

/-- Adds bytes to the end of a file, making it and the directories above it as needed. -/
def append (tree : Tree) (path : String) (bytes : List UInt8) : Except Fault Tree := do
  let tree ← ensureParent tree path
  let (tree, names, present) ← openForWriting tree path
  return tree.put names (.file (present ++ bytes))

/-- Puts bytes in place of what a file holds, making it and the directories above it as needed. -/
def write (tree : Tree) (path : String) (bytes : List UInt8) : Except Fault Tree := do
  let tree ← ensureParent tree path
  let (tree, names, _) ← openForWriting tree path
  return tree.put names (.file bytes)

/-- Removes a file; a missing one is no fault. -/
def remove (tree : Tree) (path : String) : Tree :=
  match resolve tree path with
  | .ok (names, some (.file _)) => tree.erase names
  | _ => tree

end Telemetry.Files
