import Telemetry.Declaration.Loading
import Telemetry.Proofs.Declaration.Origin
import Telemetry.Proofs.Layer.Taking

/-!
The layers that a declaration is loaded from. However it is loaded, the environment is the last of
them, and each setting is read from its own place in the tree that they add up to.
-/

namespace Telemetry.Declaration

open Layer (Entries Node environmentLayer gather)

variable {declaration loaded : Declaration} {world : World} {path : String} {layers : List Entries}

/-- The ways to load a declaration: over another one, without one, and at startup. -/
inductive Loads (world : World) : Declaration → Prop where
  | overriding (base : Declaration) (path : String) {declaration : Declaration}
      (done : base.overriddenBy world path = .ok declaration) : Loads world declaration
  | alone {declaration : Declaration} (done : ofEnvironment world = .ok declaration) :
      Loads world declaration
  | startup {loaded : Loaded} (done : load world = .ok loaded) : Loads world loaded.declaration

theorem overriddenBy_layers (done : declaration.overriddenBy world path = .ok loaded) :
    ∃ base file, Layer.base declaration = .ok base ∧ Layer.fileLayer world.files path = .ok file ∧
      ofLayers [base, file, environmentLayer world.environment] = .ok loaded := by
  unfold overriddenBy at done
  cases first : Layer.base declaration with
  | error reason => rw [first] at done; cases done
  | ok base =>
      cases second : Layer.fileLayer world.files path with
      | error reason => rw [first, second] at done; cases done
      | ok file => rw [first, second] at done; exact ⟨base, file, rfl, rfl, done⟩

theorem eq_of_checked {attempt : Except ConfigError Declaration}
    (valid : checked attempt = .ok declaration) : attempt = .ok declaration := by
  cases attempt with
  | error reason => cases valid
  | ok read =>
      simp only [checked, validate] at valid
      split at valid
      · cases valid
      · rename_i settled
        split at settled
        · cases settled
        · split at settled
          · cases settled
          · cases settled; cases valid; rfl

theorem overriddenBy_environment_last (done : declaration.overriddenBy world path = .ok loaded) :
    ∃ layers, ofLayers (layers ++ [environmentLayer world.environment]) = .ok loaded := by
  obtain ⟨below, file, -, -, read⟩ := overriddenBy_layers done
  exact ⟨[below, file], read⟩

theorem ofEnvironment_environment_last (done : ofEnvironment world = .ok loaded) :
    ∃ layers, ofLayers (layers ++ [environmentLayer world.environment]) = .ok loaded := by
  unfold ofEnvironment at done
  split at done
  · exact overriddenBy_environment_last done
  · cases first : Layer.base Declaration.default with
    | error reason => rw [first] at done; cases done
    | ok below => rw [first] at done; exact ⟨[below], done⟩

/-- At startup a file is loaded, or else the environment alone. -/
theorem load_cases {loaded : Loaded} (done : load world = .ok loaded) :
    (∃ path, checked (ofFile world path) = .ok loaded.declaration) ∨
      checked (ofEnvironment world) = .ok loaded.declaration := by
  unfold load at done
  split at done
  · split at done
    · rename_i valid
      cases done
      exact .inl ⟨_, valid⟩
    · cases done
  · unfold loadImplicit at done
    split at done
    · split at done
      · rename_i valid
        cases done
        exact .inl ⟨_, valid⟩
      · split at done
        · rename_i valid
          cases done
          exact .inr valid
        · cases done
    · split at done
      · rename_i valid
        cases done
        exact .inr valid
      · cases done

/-- The environment is the last layer of what is loaded. -/
theorem Loads.environment_last (loads : Loads world declaration) :
    ∃ layers, ofLayers (layers ++ [environmentLayer world.environment]) = .ok declaration := by
  cases loads with
  | overriding _ _ done => exact overriddenBy_environment_last done
  | alone done => exact ofEnvironment_environment_last done
  | startup done =>
      rcases load_cases done with ⟨_, valid⟩ | valid
      · exact overriddenBy_environment_last (eq_of_checked valid)
      · exact ofEnvironment_environment_last (eq_of_checked valid)

/-- The settings are read from their table, each from its own place. -/
theorem settings_of_ofLayers (read : ofLayers layers = .ok declaration)
    (noList : ∀ origin items, (gather layers).at? ["global"] ≠ some (.list origin items)) :
    declaration.settings.TakenFrom fun name => (gather layers).at? ["global", name] := by
  have settings := (Layer.readDeclaration_cases (Layer.isTable_gather layers)
    (Layer.gather_tidy layers) read).1
  have below : ∀ name, (gather layers).at? ["global", name] =
      ((gather layers).at? ["global"]).bind (·.at? [name]) :=
    fun name => Node.at?_append _ ["global"] [name]
  simp only [below]
  cases found : (gather layers).at? ["global"] with
  | none =>
      rw [found] at settings
      have same : declaration.settings = Settings.default := settings
      rw [same]
      constructor <;> exact rfl
  | some node =>
      rw [found] at settings
      cases node with
      | leaf origin value => cases settings
      | list origin items => exact absurd found (noList origin items)
      | table origin entries =>
          simp only [Option.bind_some, Node.at?_table]
          exact Layer.readSettings_takenFrom ((Layer.gather_tidy layers).at found) settings

/-- A name is declared just when something stands at its place, and its target is read from there,
each part from its own place. -/
theorem target_of_ofLayers (read : ofLayers layers = .ok declaration) (name : String)
    (noList : ∀ origin items, (gather layers).at? ["targets", name] ≠ some (.list origin items)) :
    ((gather layers).at? ["targets", name] = none ∧ declaration.targets.get? name = none) ∨
      ∃ target, (∃ node, (gather layers).at? ["targets", name] = some node) ∧
        declaration.targets.get? name = some target ∧
        target.TakenFrom (fun part => (gather layers).at? ["targets", name, part]) ∧
        Layer.Takes (Layer.readList Layer.readText)
          ((gather layers).at? ["targets", name, "subscriptions"]) [] target.subscriptions := by
  rcases (Layer.readDeclaration_cases (Layer.isTable_gather layers) (Layer.gather_tidy layers)
    read).2 name with nothing | ⟨node, target, found, reads, declared⟩
  · exact .inl nothing
  · have below : ∀ part, (gather layers).at? ["targets", name, part] = node.at? [part] := by
      intro part
      have further := Node.at?_append (gather layers) ["targets", name] [part]
      rw [found, Option.bind_some] at further
      exact further
    refine .inr ⟨target, ⟨node, found⟩, declared, ?_⟩
    simp only [below]
    cases node with
    | leaf origin value => cases reads
    | list origin items => exact absurd found (noList origin items)
    | table origin entries =>
        simp only [Node.at?_table]
        exact Layer.readTarget_takenFrom ((Layer.gather_tidy layers).at found) reads

/-- The names that are declared are those at whose places something stands. -/
theorem isSome_get?_of_ofLayers (read : ofLayers layers = .ok declaration) (name : String) :
    (declaration.targets.get? name).isSome ↔ ((gather layers).at? ["targets", name]).isSome := by
  rcases (Layer.readDeclaration_cases (Layer.isTable_gather _) (Layer.gather_tidy _) read).2 name
    with ⟨nothing, absent⟩ | ⟨node, target, found, _, declared⟩
  · rw [nothing, absent]
    exact Iff.rfl
  · rw [found, declared]
    exact iff_of_true rfl rfl

theorem settings_of_below (read : ofLayers layers = .ok declaration) {field : String} {node : Node}
    (found : (gather layers).at? ["global", field] = some node) :
    declaration.settings.TakenFrom fun name => (gather layers).at? ["global", name] :=
  settings_of_ofLayers read (Node.ne_list_of_below ["global"] found)

theorem target_of_below (read : ofLayers layers = .ok declaration) {name part : String}
    {node : Node}
    (found : (gather layers).at? ["targets", name, part] = some node) :
    ∃ target, declaration.targets.get? name = some target ∧
      target.TakenFrom (fun part => (gather layers).at? ["targets", name, part]) ∧
      Layer.Takes (Layer.readList Layer.readText)
        ((gather layers).at? ["targets", name, "subscriptions"]) [] target.subscriptions := by
  rcases target_of_ofLayers read name (Node.ne_list_of_below ["targets", name] found)
    with ⟨nothing, _⟩ | ⟨target, _, declared⟩
  · have missing := Node.at?_append (gather layers) ["targets", name] [part]
    rw [nothing] at missing
    cases found.symm.trans missing
  · exact ⟨target, declared⟩

theorem exists_ok_of_any {ε α : Type} {result : Except ε α} {test : α → Bool}
    (found : result.toOption.any test = true) :
    ∃ value, result = .ok value ∧ test value = true := by
  cases result with
  | error reason => cases found
  | ok value => exact ⟨value, rfl, found⟩

/-- A world with a file of the given text in the working directory. -/
def worldOf (text : String) (environment : Environment) : World :=
  ⟨(Files.Tree.empty ["w"]).put ["w", "c.toml"] (.file text.toUTF8.toList), environment⟩

end Telemetry.Declaration
