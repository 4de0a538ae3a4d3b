import Telemetry.Proofs.Declaration.Layers

/-!
The choice of the file at startup. A file that the environment names has to be usable. The implicit
file need not be: the defaults stand in for one that is missing or unusable, as long as the
environment alone is usable.
-/

namespace Telemetry.Declaration

variable {attempt : Except ConfigError Declaration} {declaration : Declaration} {reason : Error}
  {world : World} {loaded : Loaded} {path : String}

/-- What was attempted to load has been loaded, and it is valid. -/
def Usable (attempt : Except ConfigError Declaration) (declaration : Declaration) : Prop :=
  attempt = .ok declaration ∧ declaration.validate = .ok declaration

/-- What was attempted to load cannot be loaded, or it is invalid. -/
inductive Unusable : Except ConfigError Declaration → Error → Prop where
  | unread (fault : ConfigError) : Unusable (.error fault) (.config fault)
  | invalid {declaration : Declaration} {flaw : Invalid}
      (invalid : declaration.validate = .error flaw) : Unusable (.ok declaration) (.invalid flaw)

theorem checked_eq_ok_iff : checked attempt = .ok declaration ↔ Usable attempt declaration := by
  constructor
  · intro valid
    obtain rfl := eq_of_checked valid
    refine ⟨rfl, ?_⟩
    rw [checked] at valid
    cases validated : declaration.validate with
    | error flaw =>
        rw [validated] at valid
        cases valid
    | ok same =>
        rw [validated] at valid
        cases valid
        rfl
  · rintro ⟨rfl, valid⟩
    rw [checked, valid]

theorem checked_eq_error_iff : checked attempt = .error reason ↔ Unusable attempt reason := by
  constructor
  · intro refused
    cases attempt with
    | error fault =>
        cases refused
        exact .unread fault
    | ok read =>
        rw [checked] at refused
        cases validated : read.validate with
        | error flaw =>
            rw [validated] at refused
            cases refused
            exact .invalid validated
        | ok same =>
            rw [validated] at refused
            cases refused
  · rintro (fault | ⟨invalid⟩)
    · rfl
    · rw [checked, invalid]

/-- The defaults with the environment on top. -/
def withoutFile (environment : Environment) : Except ConfigError Declaration := do
  let base ← Layer.base Declaration.default
  ofLayers [base, Layer.environmentLayer environment]

theorem ofEnvironment_of_unnamed (unnamed : world.environment.get? configPathVariable = none) :
    ofEnvironment world = withoutFile world.environment := by
  rw [ofEnvironment, unnamed, withoutFile]

theorem load_of_named (named : world.environment.get? configPathVariable = some path) :
    load world = .ok loaded ↔
      ∃ declaration, Usable (ofFile world path) declaration ∧
        loaded = ⟨declaration, some path, none⟩ := by
  simp only [load, named, ← checked_eq_ok_iff]
  cases checked (ofFile world path) <;> simp [eq_comm]

theorem load_of_absent (unnamed : world.environment.get? configPathVariable = none)
    (absent : Files.exists? world.files implicitFile = false) :
    load world = .ok loaded ↔
      ∃ declaration, Usable (withoutFile world.environment) declaration ∧
        loaded = ⟨declaration, none, none⟩ := by
  simp only [load, unnamed, loadImplicit, absent, ofEnvironment_of_unnamed unnamed,
    ← checked_eq_ok_iff]
  cases checked (withoutFile world.environment) <;> simp [eq_comm]

theorem load_of_present (unnamed : world.environment.get? configPathVariable = none)
    (present : Files.exists? world.files implicitFile = true) :
    load world = .ok loaded ↔
      (∃ declaration, Usable (ofFile world implicitFile) declaration ∧
        loaded = ⟨declaration, some implicitFile, none⟩) ∨
      ∃ reason declaration, Unusable (ofFile world implicitFile) reason ∧
        Usable (withoutFile world.environment) declaration ∧
        loaded = ⟨declaration, some implicitFile, some reason⟩ := by
  simp only [load, unnamed, loadImplicit, present, ofEnvironment_of_unnamed unnamed,
    ← checked_eq_ok_iff, ← checked_eq_error_iff]
  cases checked (ofFile world implicitFile) with
  | ok declaration => simp [eq_comm]
  | error reason =>
      cases checked (withoutFile world.environment) <;> simp [eq_comm]

theorem usable_of_load (loads : load world = .ok loaded) :
    (∃ attempt, Usable attempt loaded.declaration) ∧
      (loaded.fallback.isSome = true → loaded.path.isSome = true) := by
  cases named : world.environment.get? configPathVariable with
  | some path =>
      obtain ⟨declaration, usable, rfl⟩ := (load_of_named named).mp loads
      exact ⟨⟨_, usable⟩, nofun⟩
  | none =>
      cases present : Files.exists? world.files implicitFile with
      | false =>
          obtain ⟨declaration, usable, rfl⟩ := (load_of_absent named present).mp loads
          exact ⟨⟨_, usable⟩, nofun⟩
      | true =>
          rcases (load_of_present named present).mp loads with
            ⟨declaration, usable, rfl⟩ | ⟨reason, declaration, _, usable, rfl⟩
          · exact ⟨⟨_, usable⟩, fun _ => rfl⟩
          · exact ⟨⟨_, usable⟩, fun _ => rfl⟩

theorem exists_load_of_usable (unnamed : world.environment.get? configPathVariable = none)
    (usable : Usable (withoutFile world.environment) declaration) :
    ∃ loaded, load world = .ok loaded := by
  cases present : Files.exists? world.files implicitFile with
  | false => exact ⟨_, (load_of_absent unnamed present).mpr ⟨declaration, usable, rfl⟩⟩
  | true =>
      cases attempt : checked (ofFile world implicitFile) with
      | ok own =>
          have owns := checked_eq_ok_iff.mp attempt
          exact ⟨_, (load_of_present unnamed present).mpr (.inl ⟨own, owns, rfl⟩)⟩
      | error reason =>
          have refused := checked_eq_error_iff.mp attempt
          exact ⟨_, (load_of_present unnamed present).mpr
            (.inr ⟨reason, declaration, refused, usable, rfl⟩)⟩

/-- A file that the environment names is loaded, and nothing else will do. Without such a name the
defaults are loaded when there is no implicit file. When there is one it is loaded, or else, if it
cannot be used, the defaults in its place with the reason why, and it is watched in both cases. So
no file stops a collector whose environment is usable and names none, there is a reason only along
with a path, and what is loaded is valid. -/
theorem startup_choice (world : World) :
    (∀ path, world.environment.get? configPathVariable = some path → ∀ loaded,
      (load world = .ok loaded ↔
        ∃ declaration, Usable (ofFile world path) declaration ∧
          loaded = ⟨declaration, some path, none⟩)) ∧
    (world.environment.get? configPathVariable = none →
      Files.exists? world.files implicitFile = false → ∀ loaded,
      (load world = .ok loaded ↔
        ∃ declaration, Usable (withoutFile world.environment) declaration ∧
          loaded = ⟨declaration, none, none⟩)) ∧
    (world.environment.get? configPathVariable = none →
      Files.exists? world.files implicitFile = true → ∀ loaded,
      (load world = .ok loaded ↔
        (∃ declaration, Usable (ofFile world implicitFile) declaration ∧
          loaded = ⟨declaration, some implicitFile, none⟩) ∨
        ∃ reason declaration, Unusable (ofFile world implicitFile) reason ∧
          Usable (withoutFile world.environment) declaration ∧
          loaded = ⟨declaration, some implicitFile, some reason⟩)) ∧
    (world.environment.get? configPathVariable = none → ∀ declaration,
      Usable (withoutFile world.environment) declaration →
      ∀ files, ∃ loaded, load ⟨files, world.environment⟩ = .ok loaded) ∧
    ∀ loaded, load world = .ok loaded →
      (loaded.fallback.isSome = true → loaded.path.isSome = true) ∧
        loaded.declaration.validate = .ok loaded.declaration := by
  refine ⟨?_, ?_, ?_, ?_, ?_⟩
  · exact fun path named loaded => load_of_named named
  · exact fun unnamed absent loaded => load_of_absent unnamed absent
  · exact fun unnamed present loaded => load_of_present unnamed present
  · exact fun unnamed declaration usable files =>
      @exists_load_of_usable declaration ⟨files, world.environment⟩ unnamed usable
  · intro loaded loads
    obtain ⟨⟨attempt, usable⟩, watched⟩ := usable_of_load loads
    exact ⟨watched, usable.2⟩

/-- An implicit file that breaks off, with the format set in the environment. -/
theorem broken_file_replaced :
    let world : World :=
      ⟨(Files.Tree.empty ["srv"]).put ["srv", "collector.toml"]
        (.file "[targets.router1\naddress = ".toUTF8.toList),
        [("COLLECTOR__GLOBAL__FORMAT", "event")]⟩
    let replacement : Declaration :=
      { Declaration.default with settings := { Settings.default with format := "event" } }
    load world = .ok ⟨replacement, some implicitFile, some (.config .badSyntax)⟩ := by
  intro world replacement
  have unnamed : world.environment.get? configPathVariable = none := by decide
  have present : Files.exists? world.files implicitFile = true := by decide +kernel
  have broken : ofFile world implicitFile = .error .badSyntax := by decide +kernel
  have usable : Usable (withoutFile world.environment) replacement := by
    constructor <;> decide +kernel
  obtain ⟨_, _, implicit, _⟩ := startup_choice world
  refine (implicit unnamed present _).mpr (.inr ⟨_, _, ?_, usable, rfl⟩)
  rw [broken]
  exact .unread .badSyntax

end Telemetry.Declaration
