import Telemetry.Proofs.NameMap
import Telemetry.Proofs.Text.Outlining
import Telemetry.Service.Launch

/-!
What outlines give away of passwords: the outline of a target nothing, those of the settings and of
a whole declaration the password in the settings.
-/

namespace Telemetry

open Text (Outline)

def Settings.withoutPassword (settings : Settings) : Settings := { settings with password := none }

def Target.withoutPassword (target : Target) : Target := { target with password := none }

def Declaration.withoutPasswords (declaration : Declaration) : Declaration where
  settings := declaration.settings.withoutPassword
  targets := declaration.targets.mapWithName fun _ => Target.withoutPassword

@[simp] theorem Target.outline_withoutPassword (target : Target) :
    target.withoutPassword.outline = target.outline := rfl

theorem Settings.with_password {first second : Settings}
    (alike : first.withoutPassword = second.withoutPassword) :
    { first with password := second.password } = second := by
  cases first
  cases second
  simp only [withoutPassword, mk.injEq] at alike ⊢
  tauto

/-- Of the parts of the outline of settings one shows the password, and no other depends on it. -/
theorem Settings.outline_parts (settings : Settings) :
    ∃ before after, ∀ password, { settings with password := password }.outline =
      .record "GlobalSettings" (before ++ ("password", .option .text password) :: after) := by
  obtain ⟨fields, shown⟩ : ∃ fields, settings.outline = .record "GlobalSettings" fields := ⟨_, rfl⟩
  -- The password is the tenth part.
  refine ⟨fields.take 9, fields.drop 10, fun password => ?_⟩
  cases shown
  rfl

theorem Settings.textAt_outline_inj {first second : Settings}
    (alike : first.withoutPassword = second.withoutPassword) {spreadOut : Bool} {depth : Nat} :
    first.outline.textAt spreadOut depth = second.outline.textAt spreadOut depth ↔
      first.password = second.password := by
  obtain ⟨before, after, parts⟩ := first.outline_parts
  have firstParts := parts first.password
  have secondParts := parts second.password
  rw [with_password alike] at secondParts
  rw [firstParts, secondParts]
  exact Outline.textAt_record_inj.trans Outline.textAt_option_text_inj

namespace Declaration

variable {first second : Declaration}

theorem names_of_alike (alike : first.withoutPasswords = second.withoutPasswords) :
    first.targets.names = second.targets.names := by
  have names := congrArg (fun declaration => declaration.targets.names) alike
  simpa [withoutPasswords] using names

theorem settings_of_alike (alike : first.withoutPasswords = second.withoutPasswords) :
    first.settings.withoutPassword = second.settings.withoutPassword :=
  congrArg Declaration.settings alike

theorem target_of_alike (alike : first.withoutPasswords = second.withoutPasswords)
    {name : String} {one other : Target} (found : first.targets.get? name = some one)
    (found' : second.targets.get? name = some other) :
    one.withoutPassword = other.withoutPassword := by
  have values := congrArg (fun declaration => declaration.targets.get? name) alike
  simpa [withoutPasswords, NameMap.get?_mapWithName, found, found'] using values

theorem textAt_outline_inj (alike : first.withoutPasswords = second.withoutPasswords)
    {spreadOut : Bool} {depth : Nat} :
    first.outline.textAt spreadOut depth = second.outline.textAt spreadOut depth ↔
      first.settings.password = second.settings.password := by
  have parts : ∀ declaration : Declaration, declaration.outline =
      .record "CollectorConfig" ([] ++ ("global", declaration.settings.outline) ::
        [("targets", .list (declaration.targets.names.map .text))]) := fun _ => rfl
  rw [parts first, parts second, names_of_alike alike]
  exact Outline.textAt_record_inj.trans (Settings.textAt_outline_inj (settings_of_alike alike))

theorem writes_of_alike (alike : first.withoutPasswords = second.withoutPasswords)
    {one other : Launch} (ofFirst : one.loaded.declaration = first)
    (ofSecond : other.loaded.declaration = second)
    (directives : one.world.environment.get? filterVariable =
      other.world.environment.get? filterVariable) (reading : FilterReading) :
    one.writes reading = other.writes reading := by
  have enabled : first.settings.loggingEnabled = second.settings.loggingEnabled :=
    congrArg (fun declaration => declaration.settings.loggingEnabled) alike
  have level : first.settings.logLevel = second.settings.logLevel :=
    congrArg (fun declaration => declaration.settings.logLevel) alike
  funext grade part
  simp only [Launch.writes, Launch.filter, ofFirst, ofSecond, enabled, level, directives]

theorem debugLines_inj (alike : first.withoutPasswords = second.withoutPasswords)
    {one other : Launch} (ofFirst : one.loaded.declaration = first)
    (ofSecond : other.loaded.declaration = second) {reading : FilterReading}
    (writes : one.writes reading = other.writes reading) :
    one.debugLines reading = other.debugLines reading ↔
      one.isDebugging reading = false ∨ first.settings.password = second.settings.password := by
  have texts := @textAt_outline_inj first second alike false 0
  simp only [Launch.debugLines, Launch.written, Launch.isDebugging, Launch.declarationEntry,
    ← writes, ofFirst, ofSecond, List.filter_singleton]
  cases one.writes reading .debug .program with
  | false => simp
  | true =>
      simp only [Bool.cond_true, List.map_cons, List.map_nil, List.cons.injEq, and_true,
        LogEntry.line, String.append_right_inj, Bool.true_eq_false, false_or, Outline.render_eq]
      exact texts

/-- Of two declarations that differ in passwords only, the targets are shown alike. The settings and
the declarations as a whole are shown alike just when the password in the settings is the same, and
so is what the log says of them, under the same directives, unless these leave it out. -/
theorem shown_alike_iff (alike : first.withoutPasswords = second.withoutPasswords) :
    (∀ spreadOut,
      (first.outline.render spreadOut = second.outline.render spreadOut ↔
        first.settings.password = second.settings.password) ∧
      (first.settings.outline.render spreadOut = second.settings.outline.render spreadOut ↔
        first.settings.password = second.settings.password) ∧
      ∀ name one other, first.targets.get? name = some one → second.targets.get? name = some other →
        one.outline.render spreadOut = other.outline.render spreadOut) ∧
    ∀ (reading : FilterReading) (one other : Launch), one.loaded.declaration = first →
      other.loaded.declaration = second →
      one.world.environment.get? filterVariable = other.world.environment.get? filterVariable →
      (one.debugLines reading = other.debugLines reading ↔
        one.isDebugging reading = false ∨ first.settings.password = second.settings.password) := by
  refine ⟨fun spreadOut => ⟨?_, ?_, ?_⟩, ?_⟩
  · exact textAt_outline_inj alike
  · exact Settings.textAt_outline_inj (settings_of_alike alike)
  · intro name one other found found'
    have same := target_of_alike alike found found'
    rw [← one.outline_withoutPassword, same, other.outline_withoutPassword]
  · intro reading one other ofFirst ofSecond directives
    exact debugLines_inj alike ofFirst ofSecond
      (writes_of_alike alike ofFirst ofSecond directives reading)

/-- Two passwords of one target: neither is seen. -/
theorem target_passwords_unseen :
    let declaring (password : String) : Declaration :=
      ⟨Settings.default, NameMap.ofList [("r1",
        { Target.ofAddress "r1" "10.0.0.1:57400" with password := some password })]⟩
    declaring "hunter2" ≠ declaring "hunter3" ∧
      (declaring "hunter2").withoutPasswords = (declaring "hunter3").withoutPasswords ∧
      ∀ spreadOut, (declaring "hunter2").outline.render spreadOut =
        (declaring "hunter3").outline.render spreadOut := by
  intro declaring
  have alike : (declaring "hunter2").withoutPasswords = (declaring "hunter3").withoutPasswords := by
    decide
  refine ⟨by decide, alike, fun spreadOut => ?_⟩
  exact ((shown_alike_iff alike).1 spreadOut).1.mpr rfl

/-- A password in the settings: the outline of the declaration has it. -/
theorem settings_password_shown :
    let declaring (password : Option String) : Declaration :=
      ⟨{ Settings.default with password := password }, NameMap.empty⟩
    (declaring (some "hunter2")).withoutPasswords = (declaring none).withoutPasswords ∧
      (declaring (some "hunter2")).outline.render false =
        "CollectorConfig \x7b global: GlobalSettings \x7b format: \"\", no_prefix: false, " ++
        "debug: false, log: false, log_file: \"\", max_msg_size: 0, proxy_from_env: false, " ++
        "api: \"\", username: None, password: Some(\"hunter2\"), insecure: false, " ++
        "skip_verify: false, timeout_in_ms: 10000 \x7d, targets: [] \x7d" ∧
      (declaring (some "hunter2")).outline.render false ≠ (declaring none).outline.render false ∧
      (declaring (some "hunter2")).settings.outline.render false ≠
        (declaring none).settings.outline.render false := by
  decide +kernel

end Declaration

end Telemetry
