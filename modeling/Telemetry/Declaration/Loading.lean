import Telemetry.Declaration.Validity
import Telemetry.Layer.Base
import Telemetry.Layer.Environment
import Telemetry.Layer.File
import Telemetry.Layer.Reading

/-!
Loading of declarations: from the built-in defaults, a file and the environment, each on top of the
one before, and the choice of the file at startup.
-/

namespace Telemetry

/-- What a declaration is loaded from. -/
structure World where
  files : Files.Tree
  environment : Environment

/-- The variable that names a file to be loaded. -/
def configPathVariable : String := "CONFIG_PATH"

/-- The file that is loaded when the variable is not set. -/
def implicitFile : String := "collector.toml"

/-- What was loaded at startup. -/
structure Loaded where
  declaration : Declaration
  /-- The file to watch. -/
  path : Option String
  /-- Why the implicit file could not be used. -/
  fallback : Option Error
deriving DecidableEq, Repr

namespace Declaration

/-- The declaration that layers add up to. -/
def ofLayers (layers : List Layer.Entries) : Except ConfigError Declaration :=
  Layer.readDeclaration (Layer.gather layers)

/-- A declaration with a file and the environment on top. -/
def overriddenBy (declaration : Declaration) (world : World) (path : String) :
    Except ConfigError Declaration := do
  let base ← Layer.base declaration
  let file ← Layer.fileLayer world.files path
  ofLayers [base, file, Layer.environmentLayer world.environment]

/-- The defaults with a file and the environment on top. -/
def ofFile (world : World) (path : String) : Except ConfigError Declaration :=
  Declaration.default.overriddenBy world path

/-- The defaults with the environment on top, and with the file between them that the environment
names, if it names one. -/
def ofEnvironment (world : World) : Except ConfigError Declaration :=
  match world.environment.get? configPathVariable with
  | some path => ofFile world path
  | none => do
      let base ← Layer.base Declaration.default
      ofLayers [base, Layer.environmentLayer world.environment]

/-- A loaded declaration, if it is valid. -/
def checked (loaded : Except ConfigError Declaration) : Except Error Declaration :=
  match loaded with
  | .error reason => .error (.config reason)
  | .ok declaration =>
      match declaration.validate with
      | .error reason => .error (.invalid reason)
      | .ok declaration => .ok declaration

/-- Loads the implicit file when it exists. One that cannot be used is watched all the same, with
the defaults in its place. -/
def loadImplicit (world : World) (file : String) : Except Error Loaded :=
  if Files.exists? world.files file then
    match checked (ofFile world file) with
    | .ok declaration => .ok ⟨declaration, some file, none⟩
    | .error reason =>
        match checked (ofEnvironment world) with
        | .ok declaration => .ok ⟨declaration, some file, some reason⟩
        | .error failure => .error failure
  else
    match checked (ofEnvironment world) with
    | .ok declaration => .ok ⟨declaration, none, none⟩
    | .error failure => .error failure

/-- Loads the declaration at startup: a file that the environment names has to be fit, while the
implicit file may be missing or unfit. -/
def load (world : World) : Except Error Loaded :=
  match world.environment.get? configPathVariable with
  | some path =>
      match checked (ofFile world path) with
      | .ok declaration => .ok ⟨declaration, some path, none⟩
      | .error failure => .error failure
  | none => loadImplicit world implicitFile

end Declaration

end Telemetry
