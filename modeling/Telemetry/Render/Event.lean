import Telemetry.Json.Printer
import Telemetry.NameMap
import Telemetry.Text.Lines

/-!
The event format: a line for each piece of metadata, then a line for each leaf of the message's tree
under the path that leads to it. Names are written as they are.
-/

namespace Telemetry.Render

/-- A path with one more name. -/
def joinPath (path : List Char) (name : List Char) : List Char :=
  if path.isEmpty then name else path ++ '/' :: name

/-- The path under which a leaf is listed. -/
def leafPath (path : List Char) : List Char := if path.isEmpty then "value".toList else path

def indexName (index : Nat) : List Char := (toString index).toList

mutual

/-- The leaves of a tree with their paths, in the order of the tree. -/
def flatten (path : List Char) : Json → List (List Char × List Char)
  | .object fields => flattenFields path fields
  | .array items => flattenItems path 0 items
  | .string value => [(leafPath path, value.toList)]
  | .null => [(leafPath path, Json.inline .null)]
  | .bool value => [(leafPath path, Json.inline (.bool value))]
  | .integer value => [(leafPath path, Json.inline (.integer value))]
  | .double value => [(leafPath path, Json.inline (.double value))]

def flattenFields (path : List Char) : List (String × Json) → List (List Char × List Char)
  | [] => []
  | (key, value) :: fields =>
      flatten (joinPath path key.toList) value ++ flattenFields path fields

def flattenItems (path : List Char) (index : Nat) : List Json → List (List Char × List Char)
  | [] => []
  | item :: items =>
      flatten (joinPath path (indexName index)) item ++ flattenItems path (index + 1) items

end

def leafLine (leaf : List Char × List Char) : List Char := leaf.1 ++ ':' :: ' ' :: leaf.2

/-- The lines of the event format. -/
def eventLines (content : Json) (metadata : NameMap String) : List (List Char) :=
  metadata.entries.map (fun entry => leafLine (entry.1.toList, entry.2.toList)) ++
    (flatten [] content).map leafLine

/-- The lines below one another, or behind one another with a blank between. -/
def event (content : Json) (multiline : Bool) (metadata : NameMap String) : List Char :=
  Text.joinWith (if multiline then ['\n'] else [' ']) (eventLines content metadata)

end Telemetry.Render
