import Telemetry.Declaration.Validity
import Telemetry.Proofs.Declaration.Normalised
import Telemetry.Proofs.NameMap

/-!
Declarations that are valid, and what their targets resolve to. Validation goes over the targets
once and resolution once more, in whatever order they come; between them they leave no target
without a name, an address and the time that a connection may take.
-/

namespace Telemetry

variable {declaration : Declaration} {order : List (String × Target)} {name key : String}

/-- A value of one's own, or else the one to fall back on. -/
def FallsBack {α : Type} (own fallback result : Option α) : Prop :=
  (∀ value, own = some value → result = some value) ∧ (own = none → result = fallback)

theorem fallsBack_or {α : Type} (own fallback : Option α) :
    FallsBack own fallback (own <|> fallback) := by
  cases own with
  | none => simp [FallsBack]
  | some value => simp [FallsBack]

theorem fallsBack_getD {α : Type} (own : Option α) (fallback : α) :
    FallsBack own (some fallback) (some (own.getD fallback)) := by
  cases own with
  | none => simp [FallsBack]
  | some value => simp [FallsBack]

/-- What a target that is declared under a key has to be when it is resolved. -/
structure Target.Completes (key : String) (settings : Settings) (declared resolved : Target) :
    Prop where
  name : resolved.name = key
  address : resolved.address ≠ ""
  patient : ∃ timeout, resolved.timeoutMs = some timeout ∧ 0 < timeout
  insecure_isSome : resolved.insecure.isSome
  skipVerify_isSome : resolved.skipVerify.isSome
  username : FallsBack declared.username settings.username resolved.username
  password : FallsBack declared.password settings.password resolved.password
  insecure : FallsBack declared.insecure (some settings.insecure) resolved.insecure
  skipVerify : FallsBack declared.skipVerify (some settings.skipVerify) resolved.skipVerify
  timeout : FallsBack declared.timeoutMs (some settings.timeoutMs) resolved.timeoutMs
  authorityFile : resolved.authorityFile = declared.authorityFile
  subscriptions : resolved.subscriptions = declared.subscriptions

theorem Target.completes_resolve {declared : Target} {settings : Settings}
    (positive : 0 < settings.timeoutMs) (nonzero : declared.timeoutMs ≠ some 0) :
    declared.Completes key settings (declared.resolve key settings) where
  name := rfl
  address := declared.address_resolve_ne_empty key settings
  patient := by
    refine ⟨_, rfl, ?_⟩
    cases own : declared.timeoutMs with
    | none => exact positive
    | some timeout =>
        have timeoutNonzero : timeout ≠ 0 := fun zero => nonzero (own.trans (congrArg some zero))
        exact UInt64.pos_iff_ne_zero.mpr timeoutNonzero
  insecure_isSome := rfl
  skipVerify_isSome := rfl
  username := fallsBack_or _ _
  password := fallsBack_or _ _
  insecure := fallsBack_getD _ _
  skipVerify := fallsBack_getD _ _
  timeout := fallsBack_getD _ _
  authorityFile := rfl
  subscriptions := rfl

theorem Target.flaw?_eq_none_iff {target : Target} :
    target.flaw? name = none ↔
      (∃ c ∈ name.toList, Text.isWhiteSpace c = false) ∧ target.timeoutMs ≠ some 0 := by
  rw [← Text.isBlank_eq_false_iff, flaw?]
  cases Text.isBlank name with
  | true => simp
  | false => simp

theorem Settings.validate_eq_ok_iff {settings : Settings} :
    settings.validate = .ok () ↔
      settings.format ∈ supportedFormats ∧
        (settings.api = "" ∨ ∃ address, Net.SocketAddress.parse? settings.api = some address) ∧
          0 < settings.timeoutMs := by
  rw [validate, UInt64.pos_iff_ne_zero]
  by_cases format : settings.format ∈ supportedFormats
  · by_cases api : settings.api = "" ∨
        ∃ address, Net.SocketAddress.parse? settings.api = some address
    · have passes : ¬ (settings.api != "" &&
          (Net.SocketAddress.parse? settings.api).isNone) = true := by
        rcases api with disabled | address
        · simp [disabled]
        · obtain ⟨found, isFound⟩ := address
          simp [isFound]
      simp [format, api, passes]
    · have stops : (settings.api != "" &&
          (Net.SocketAddress.parse? settings.api).isNone) = true := by
        simpa [Option.eq_none_iff_forall_not_mem] using api
      simp [format, api, stops]
  · simp [format]

namespace Declaration

/-- A supported format, no admin endpoint or one at a socket address, and time to connect; targets
of visible names, none of which may take no time. -/
structure IsFit (declaration : Declaration) : Prop where
  format : declaration.settings.format ∈ supportedFormats
  api : declaration.settings.api = "" ∨
    ∃ address, Net.SocketAddress.parse? declaration.settings.api = some address
  patient : 0 < declaration.settings.timeoutMs
  visible : ∀ name ∈ declaration.targets.names, ∃ c ∈ name.toList, Text.isWhiteSpace c = false
  targetsPatient : ∀ name target,
    declaration.targets.get? name = some target → target.timeoutMs ≠ some 0

/-- Validation that goes over the targets in an order. -/
def validateAlong (order : List (String × Target)) (declaration : Declaration) :
    Except Invalid Declaration :=
  match declaration.settings.validate with
  | .error reason => .error reason
  | .ok () =>
      match order.findSome? (fun entry => entry.2.flaw? entry.1) with
      | some reason => .error reason
      | none => .ok declaration

/-- Resolution that goes over the targets in an order. -/
def resolvedAlong (order : List (String × Target)) (declaration : Declaration) :
    Except TargetError TargetSet :=
  if order.isEmpty then .error .noTargets
  else
    .ok (NameMap.ofList
      (order.map fun entry => (entry.1, entry.2.resolve entry.1 declaration.settings)))

theorem validate_eq_along (declaration : Declaration) :
    declaration.validate = declaration.validateAlong declaration.targets.entries := rfl

theorem flawless_iff (order : List (String × Target)) :
    order.findSome? (fun entry => entry.2.flaw? entry.1) = none ↔
      ∀ entry ∈ order, (∃ c ∈ entry.1.toList, Text.isWhiteSpace c = false) ∧
        entry.2.timeoutMs ≠ some 0 := by
  simp only [List.findSome?_eq_none_iff, Target.flaw?_eq_none_iff]

theorem isFit_iff : declaration.IsFit ↔ declaration.settings.validate = .ok () ∧
    ∀ entry ∈ declaration.targets.entries,
      (∃ c ∈ entry.1.toList, Text.isWhiteSpace c = false) ∧ entry.2.timeoutMs ≠ some 0 := by
  rw [Settings.validate_eq_ok_iff]
  constructor
  · intro fit
    refine ⟨⟨fit.format, fit.api, fit.patient⟩, ?_⟩
    intro entry member
    exact ⟨fit.visible entry.1 (List.mem_map_of_mem member),
      fit.targetsPatient entry.1 entry.2 (NameMap.mem_entries.mp member)⟩
  · intro both
    obtain ⟨⟨format, api, patient⟩, each⟩ := both
    refine ⟨format, api, patient, ?_, ?_⟩
    · intro name isName
      obtain ⟨entry, member, same⟩ := List.mem_map.mp isName
      exact same ▸ (each entry member).1
    · intro name target found
      exact (each (name, target) (NameMap.mem_entries.mpr found)).2

theorem validateAlong_eq_ok_iff (visits : order.Perm declaration.targets.entries)
    {valid : Declaration} :
    declaration.validateAlong order = .ok valid ↔ valid = declaration ∧ declaration.IsFit := by
  have flawless : order.findSome? (fun entry => entry.2.flaw? entry.1) = none ↔
      ∀ entry ∈ declaration.targets.entries,
        (∃ c ∈ entry.1.toList, Text.isWhiteSpace c = false) ∧ entry.2.timeoutMs ≠ some 0 := by
    rw [flawless_iff]
    simp only [visits.mem_iff]
  rw [isFit_iff, ← flawless, validateAlong]
  cases settled : declaration.settings.validate with
  | error reason => simp
  | ok _ =>
      cases found : order.findSome? (fun entry => entry.2.flaw? entry.1) with
      | some reason => simp
      | none => simp [eq_comm]

theorem resolvedAlong_eq (visits : order.Perm declaration.targets.entries) :
    declaration.resolvedAlong order = declaration.resolvedTargets := by
  have empty : order.isEmpty = declaration.targets.isEmpty := by
    rw [NameMap.isEmpty, Bool.eq_iff_iff, List.isEmpty_iff, List.isEmpty_iff]
    exact ⟨fun nothing => List.nil_perm.mp (nothing ▸ visits),
      fun nothing => List.perm_nil.mp (nothing ▸ visits)⟩
  have together : NameMap.ofList (order.map fun entry =>
      (entry.1, entry.2.resolve entry.1 declaration.settings)) =
        declaration.targets.mapWithName fun name target =>
          target.resolve name declaration.settings :=
    NameMap.ofList_of_perm (visits.map _)
  rw [resolvedAlong, empty, together, resolvedTargets]

/-- Whatever the order in which the targets are gone over, validation accepts a declaration just
when it is fit, and hands it back as it is. The targets of one that was accepted resolve, if there
are any, to a set of the same names, each target completed; that there are none is a failure. -/
theorem valid_targets_resolve (visits : order.Perm declaration.targets.entries) :
    (∀ valid, declaration.validateAlong order = .ok valid ↔
      valid = declaration ∧ declaration.IsFit) ∧
    (declaration.targets = NameMap.empty →
      declaration.resolvedAlong order = .error .noTargets) ∧
    (declaration.validateAlong order = .ok declaration → declaration.targets ≠ NameMap.empty →
      ∃ resolved, declaration.resolvedAlong order = .ok resolved ∧
        resolved.names = declaration.targets.names ∧
        ∀ name declared, declaration.targets.get? name = some declared →
          ∃ target, resolved.get? name = some target ∧
            declared.Completes name declaration.settings target) ∧
    declaration.validate = declaration.validateAlong declaration.targets.entries ∧
    declaration.resolvedTargets = declaration.resolvedAlong order := by
  have along := resolvedAlong_eq visits
  refine ⟨fun _ => validateAlong_eq_ok_iff visits, ?_, ?_, declaration.validate_eq_along,
    along.symm⟩
  · intro nothing
    rw [along, resolvedTargets, nothing]
    rfl
  · intro valid some
    obtain ⟨_, fit⟩ := (validateAlong_eq_ok_iff visits).mp valid
    have notEmpty : ¬ declaration.targets.isEmpty = true := by
      intro isEmpty
      exact some (NameMap.ext (List.isEmpty_iff.mp isEmpty))
    refine ⟨declaration.targets.mapWithName fun name target =>
      target.resolve name declaration.settings, ?_, NameMap.names_mapWithName _ _, ?_⟩
    · rw [along, resolvedTargets, if_neg notEmpty]
    · intro name declared found
      refine ⟨declared.resolve name declaration.settings, ?_,
        Target.completes_resolve fit.patient (fit.targetsPatient name declared found)⟩
      rw [NameMap.get?_mapWithName, found]
      rfl

/-- A target of nothing but its key and one with an account of its own, the last gone over first. -/
theorem reversed_targets_resolve :
    let own := { Target.ofAddress "" "10.0.0.2:1" with username := some "reader" }
    let settings := { Settings.default with username := some "admin" }
    let declaration : Declaration :=
      ⟨settings, NameMap.ofList [("r1", Target.default), ("r2", own)]⟩
    let order := [("r2", own), ("r1", Target.default)]
    order.Perm declaration.targets.entries ∧ declaration.IsFit ∧
      ∃ resolved, declaration.resolvedAlong order = .ok resolved ∧
        resolved.names = ["r1", "r2"] ∧
        ∃ target, resolved.get? "r1" = some target ∧
          Target.default.Completes "r1" settings target := by
  intro own settings declaration order
  have visits : order.Perm declaration.targets.entries := by decide +kernel
  obtain ⟨accepts, _, resolves, _⟩ := valid_targets_resolve visits
  have valid : declaration.validateAlong order = .ok declaration := by decide +kernel
  obtain ⟨resolved, isResolved, names, completed⟩ := resolves valid (by decide +kernel)
  exact ⟨visits, ((accepts declaration).mp valid).2, resolved, isResolved,
    names.trans (by decide +kernel), completed "r1" Target.default (by decide +kernel)⟩

end Declaration

end Telemetry
