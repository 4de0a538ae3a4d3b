import Telemetry.Proofs.Decimal.Numeral
import Telemetry.Proofs.Declaration.Layers
import Telemetry.Proofs.Layer.Spelling

/-!
Settings that are texts and are given by variables. The text of a variable is taken as a truth value
or a number where it spells one, and written out again for the setting: it arrives as it was just
when it is what is written for what it spells.
-/

namespace Telemetry

open Decimal (IsNumeral Layout readDouble readInt64)
open Layer (Node environmentLayer environmentValue variableOf)
open Text (lowercase)

/-- The settings whose values are texts: some for the whole collector, and some for each target. -/
inductive TextSetting where
  | format
  | logFile
  | api
  | username
  | password
  | targetAddress (target : String)
  | targetUsername (target : String)
  | targetPassword (target : String)
  | targetAuthorityFile (target : String)
deriving DecidableEq, Repr

namespace TextSetting

/-- The names that lead to a setting. -/
def place : TextSetting → List String
  | .format => ["global", "format"]
  | .logFile => ["global", "log_file"]
  | .api => ["global", "api"]
  | .username => ["global", "username"]
  | .password => ["global", "password"]
  | .targetAddress target => ["targets", target, "address"]
  | .targetUsername target => ["targets", target, "username"]
  | .targetPassword target => ["targets", target, "password"]
  | .targetAuthorityFile target => ["targets", target, "tls_ca"]

/-- What a declaration has for a setting. -/
def value? (declaration : Declaration) : TextSetting → Option String
  | .format => some declaration.settings.format
  | .logFile => some declaration.settings.logFile
  | .api => some declaration.settings.api
  | .username => declaration.settings.username
  | .password => declaration.settings.password
  | .targetAddress target => (declaration.targets.get? target).map (·.address)
  | .targetUsername target => (declaration.targets.get? target).bind (·.username)
  | .targetPassword target => (declaration.targets.get? target).bind (·.password)
  | .targetAuthorityFile target => (declaration.targets.get? target).bind (·.authorityFile)

/-- The names on the way to the setting can be told apart in the name of a variable. -/
def IsNameable (setting : TextSetting) : Prop :=
  ∀ name ∈ setting.place, Layer.IsNameable name

instance (setting : TextSetting) : Decidable setting.IsNameable :=
  inferInstanceAs (Decidable (∀ name ∈ setting.place, _))

end TextSetting

namespace Layer

/-- The text that a setting gets from a text of the environment. -/
def arrival (text : String) : String :=
  match environmentValue text with
  | .bool value => toString value
  | .integer value => toString value
  | .double value => Layout.plain.number value
  | .text value => value
  | .nil => ""

/-- A text that spells nothing but itself, or that is what is written for what it spells: a truth
value in small letters, a numeral, or a decimal in its shortest form without an exponent. -/
def IsKept (text : String) : Prop :=
  if lowercase text = "true" ∨ lowercase text = "false" then lowercase text = text
  else
    match readInt64 text.toList with
    | some _ => IsNumeral text.toList
    | none => ∀ value, readDouble text.toList = some value → Layout.plain.number value = text

theorem arrival_eq_self_iff (text : String) : arrival text = text ↔ IsKept text := by
  unfold arrival environmentValue IsKept
  by_cases isTrue : lowercase text = "true"
  · simp only [isTrue, if_true, true_or]
    exact Iff.rfl
  by_cases isFalse : lowercase text = "false"
  · simp only [isFalse, if_true, or_true]
    rw [if_neg (by decide)]
    exact Iff.rfl
  cases whole : readInt64 text.toList with
  | some value =>
      have written : toString value = text ↔ Json.integerText value = text.toList := by
        rw [Json.integerText, String.toList_inj]
      simp only [isTrue, isFalse, if_false, or_self, written]
      exact Decimal.numeral_iff whole
  | none =>
      cases decimal : readDouble text.toList with
      | some value => simp [isTrue, isFalse]
      | none => simp [isTrue, isFalse]

instance (text : String) : Decidable (IsKept text) := decidable_of_iff _ (arrival_eq_self_iff text)

theorem readOption_of_readText {node : Node} {value : String} (reads : readText node = .ok value) :
    readOption readText node = .ok (some value) := by
  unfold readOption
  split
  · cases reads
  · rw [reads]
    rfl

theorem readText_environmentValue (origin : Option String) (text : String) :
    readText (.leaf origin (environmentValue text)) = .ok (arrival text) := by
  unfold arrival environmentValue
  by_cases isTrue : lowercase text = "true"
  · simp [isTrue, readText]
  by_cases isFalse : lowercase text = "false"
  · simp [isFalse, readText]
  simp only [isTrue, isFalse, if_false]
  cases readInt64 text.toList with
  | some value => rfl
  | none => cases readDouble text.toList <;> rfl

/-- What the last variable for a place says stands there. -/
theorem at?_gather_of_variable (layers : List Entries) (before : Environment) {after : Environment}
    {variableName text first : String} {names : List String}
    (named : lowercase variableName = variableOf (first :: names)) (nonempty : text ≠ "")
    (nameable : ∀ name ∈ first :: names, IsNameable name)
    (last : SilentAt (environmentLayer after) (first :: names)) :
    (gather (layers ++ [environmentLayer (before ++ (variableName, text) :: after)])).at?
      (first :: names) = some (.leaf (some environmentOrigin) (environmentValue text)) := by
  obtain ⟨key, isKey, leads⟩ := environmentKey?_of_variableOf named nameable
  have entries : environmentLayer (before ++ (variableName, text) :: after) =
      environmentLayer before ++
        (key, .leaf (some environmentOrigin) (environmentValue text)) :: environmentLayer after := by
    have own : environmentEntry? (variableName, text) =
        some (key, .leaf (some environmentOrigin) (environmentValue text)) :=
      environmentEntry?_of_key nonempty isKey
    rw [environmentLayer, List.filterMap_append, List.filterMap_cons_some own]
    rfl
  rw [gather_concat, entries, at?_overlay_last _ _ _ _
    (fun name member => (nameable name member).2.2) leads last, merge]

end Layer

namespace Declaration

variable {world : World} {declaration : Declaration} {before after : Environment}
  {setting : TextSetting} {variableName text : String}

/-- What stands at the place of a setting is what the setting is read from. -/
theorem value?_of_ofLayers {layers : List Layer.Entries} {node : Node} {value : String}
    (read : ofLayers layers = .ok declaration)
    (found : (Layer.gather layers).at? setting.place = some node)
    (reads : Layer.readText node = .ok value) : setting.value? declaration = some value := by
  have present : Layer.readOption Layer.readText node = .ok (some value) :=
    Layer.readOption_of_readText reads
  cases setting with
  | format => exact congrArg some ((settings_of_below read found).format.eq_of_ok found reads)
  | logFile => exact congrArg some ((settings_of_below read found).logFile.eq_of_ok found reads)
  | api => exact congrArg some ((settings_of_below read found).api.eq_of_ok found reads)
  | username => exact (settings_of_below read found).username.eq_of_ok found present
  | password => exact (settings_of_below read found).password.eq_of_ok found present
  | targetAddress name =>
      obtain ⟨own, isOwn, taken, _⟩ := target_of_below read found
      rw [TextSetting.value?, isOwn, Option.map_some, taken.address.eq_of_ok found reads]
  | targetUsername name =>
      obtain ⟨own, isOwn, taken, _⟩ := target_of_below read found
      rw [TextSetting.value?, isOwn, Option.bind_some, taken.username.eq_of_ok found present]
  | targetPassword name =>
      obtain ⟨own, isOwn, taken, _⟩ := target_of_below read found
      rw [TextSetting.value?, isOwn, Option.bind_some, taken.password.eq_of_ok found present]
  | targetAuthorityFile name =>
      obtain ⟨own, isOwn, taken, _⟩ := target_of_below read found
      rw [TextSetting.value?, isOwn, Option.bind_some, taken.authorityFile.eq_of_ok found present]

/-- A text setting that a variable gives gets what the variable's text spells, written out: the text
itself just when that is how it is written. -/
theorem value?_of_variable (loads : Loads world declaration) (nameable : setting.IsNameable)
    (set : world.environment = before ++ (variableName, text) :: after)
    (named : lowercase variableName = variableOf setting.place) (nonempty : text ≠ "")
    (last : Layer.SilentAt (environmentLayer after) setting.place) :
    setting.value? declaration = some (Layer.arrival text) ∧
      (setting.value? declaration = some text ↔ Layer.IsKept text) := by
  obtain ⟨layers, read⟩ := loads.environment_last
  obtain ⟨first, names, leads⟩ : ∃ first names, setting.place = first :: names := by
    cases setting <;> exact ⟨_, _, rfl⟩
  unfold TextSetting.IsNameable at nameable
  rw [leads] at named nameable last
  rw [set] at read
  have found := Layer.at?_gather_of_variable layers before named nonempty nameable last
  have arrives := value?_of_ofLayers read (leads ▸ found) (Layer.readText_environmentValue _ text)
  refine ⟨arrives, ?_⟩
  rw [arrives, Option.some.injEq]
  exact Layer.arrival_eq_self_iff text

/-- The password of a target, in a variable of another letter case: a word is kept. -/
theorem target_password_arrives :
    let world := worldOf ""
      [("COLLECTOR__TARGETS__R1__ADDRESS", "10.0.0.1:57400"),
        ("Collector__Targets__r1__Password", "hunter2"), ("COLLECTOR__GLOBAL__LOG", "on")]
    ∃ declaration, Loads world declaration ∧
      (TextSetting.targetPassword "r1").value? declaration = some "hunter2" := by
  intro world
  let target : Target :=
    { Target.ofAddress "" "10.0.0.1:57400" with password := some "hunter2" }
  have loads : Loads world
      ⟨{ Settings.default with log := true }, NameMap.ofList [("r1", target)]⟩ :=
    .overriding Declaration.default "c.toml" (by decide +kernel)
  have nameable : (TextSetting.targetPassword "r1").IsNameable := by decide +kernel
  have set : world.environment = [("COLLECTOR__TARGETS__R1__ADDRESS", "10.0.0.1:57400")] ++
      ("Collector__Targets__r1__Password", "hunter2") :: [("COLLECTOR__GLOBAL__LOG", "on")] := rfl
  obtain ⟨_, kept⟩ := value?_of_variable loads nameable set (by decide +kernel)
    (by decide +kernel) (by decide +kernel)
  exact ⟨_, loads, kept.mpr (by decide +kernel)⟩

/-- A password of digits loses the zeros in front. -/
theorem padded_password_changed :
    let world := worldOf "" [("COLLECTOR__GLOBAL__PASSWORD", "0123")]
    lowercase "COLLECTOR__GLOBAL__PASSWORD" = variableOf TextSetting.password.place ∧
      ∃ declaration, Loads world declaration ∧
        TextSetting.password.value? declaration = some "123" := by
  intro world
  refine ⟨by decide +kernel,
    ⟨{ Settings.default with password := some "123" }, NameMap.empty⟩, ?_, rfl⟩
  exact .overriding Declaration.default "c.toml" (by decide +kernel)

end Declaration

end Telemetry
