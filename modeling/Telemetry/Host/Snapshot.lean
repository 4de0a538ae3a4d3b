import Std.Internal.UV.System
import Telemetry.Declaration.Loading

/-!
What the host holds of the world that a run depends on: the variables of the environment, and the
nodes on the ways to given paths.
-/

namespace Telemetry.Host

/-- The places that a path leads through, the last one being its own. -/
def placesOf (working : List String) (path : String) : List (List String) :=
  let start := if Files.isAbsolute path then [] else working
  let further (places : List (List String)) (name : String) :=
    places ++ [Files.step (places.getLastD start) name]
  ((Files.segments path).foldl further [start]).filter (!·.isEmpty)

/-- Adds the node of a place, if there is one that can be read. -/
def lookAt (tree : Files.Tree) (names : List String) : IO Files.Tree := do
  let place := (← IO.currentDir) / ("/" ++ Files.joinNames names)
  if ← place.isDir then return tree.put names .directory
  try
    return tree.put names (.file (← IO.FS.readBinFile place).toList)
  catch _ => return tree

/-- The nodes on the ways to the given paths. -/
def snapshot (paths : List String) : IO Files.Tree := do
  let working := Files.segments (← IO.currentDir).toString
  let places := (paths.flatMap (placesOf working)).eraseDups
  places.foldlM lookAt (Files.Tree.empty working)

def environment : IO Environment := return (← Std.Internal.UV.System.osEnviron).toList

end Telemetry.Host
