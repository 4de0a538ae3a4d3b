import Telemetry.Declaration.Loading
import Telemetry.Declaration.Resolution

/-!
Sources of targets. A source says which targets are declared now; a file source reads its file anew
each time and keeps the last declaration that could be used.
-/

namespace Telemetry

/-- A state from which the declared targets can be read. -/
class TargetSource (σ : Type) where
  /-- The declared targets as of now; that there are none is a failure of its own kind. -/
  read : σ → Except Error TargetSet × σ
  /-- The number of targets in the last declaration that could be used. -/
  declaredCount : σ → Nat
  /-- The file whose changes call for another reading. -/
  watchPath : σ → Option String

/-- A declaration that is read from a file, if there is one, and kept. -/
structure FileSource where
  path : Option String
  /-- The last declaration that could be used. -/
  current : Declaration
deriving DecidableEq, Repr

namespace FileSource

def resolved (declaration : Declaration) : Except Error TargetSet :=
  match declaration.resolvedTargets with
  | .ok targets => .ok targets
  | .error reason => .error (.target reason)

/-- Reads the declared targets; a file that cannot be used leaves the kept declaration alone. -/
def read (source : FileSource) (world : World) : Except Error TargetSet × FileSource :=
  match source.path with
  | none => (resolved source.current, source)
  | some path =>
      match Declaration.checked (Declaration.ofFile world path) with
      | .error reason => (.error reason, source)
      | .ok declaration => (resolved declaration, { source with current := declaration })

def declaredCount (source : FileSource) : Nat := source.current.targets.size

end FileSource

/-- A file source and the world that it reads from. -/
structure PlacedSource where
  source : FileSource
  world : World

instance : TargetSource PlacedSource where
  read placed :=
    let (answer, source) := placed.source.read placed.world
    (answer, { placed with source := source })
  declaredCount placed := placed.source.declaredCount
  watchPath placed := placed.source.path

end Telemetry
