import Telemetry.Declaration.Validity
import Telemetry.Proofs.Print.Accepted
import Telemetry.Service.Basic

/-!
Formats that may be configured and formats that can be printed. They are the same, so no message
fails to be printed by a collector whose declaration is valid, as long as the sinks accept what is
written.
-/

namespace Telemetry

theorem mem_supportedFormats {format : String} :
    format ∈ supportedFormats ↔ (format = "" ∨ format = "json") ∨ format = "event" := by
  simp [supportedFormats, namedFormats, or_assoc]

/-- Validation finds fault with the format exactly when it is none of the supported ones. -/
theorem Settings.validate_format_iff (settings : Settings) :
    settings.validate ≠ .error (.unknownFormat settings.format) ↔
      settings.format ∈ supportedFormats := by
  rw [validate]
  by_cases supported : settings.format ∈ supportedFormats
  · have passes : ¬ (!supportedFormats.contains settings.format) = true := by simp [supported]
    refine iff_of_true ?_ supported
    rw [if_neg passes]
    split
    · nofun
    · split <;> nofun
  · have stops : (!supportedFormats.contains settings.format) = true := by simp [supported]
    rw [if_pos stops]
    exact iff_of_false (fun accepted => accepted rfl) supported

/-- Whether the built-in formatter renders a message depends on the format alone. -/
theorem Formatter.builtIn_ok_iff (message : Message) (options : RenderOptions)
    (metadata : NameMap String) :
    (∃ rendering, Formatter.builtIn message options metadata = .ok rendering) ↔
      options.format ∈ supportedFormats := by
  rw [mem_supportedFormats]
  by_cases asDocument : options.format = "" ∨ options.format = "json"
  · refine iff_of_true ?_ (.inl asDocument)
    rw [Formatter.builtIn]
    exact ⟨_, if_pos asDocument⟩
  · by_cases asEvent : options.format = "event"
    · refine iff_of_true ?_ (.inr asEvent)
      rw [Formatter.builtIn]
      exact ⟨_, (if_neg asDocument).trans (if_pos asEvent)⟩
    · have refused : Formatter.builtIn message options metadata =
          .error (.unsupported options.format) := by
        rw [Formatter.builtIn]
        exact (if_neg asDocument).trans (if_neg asEvent)
      refine iff_of_false ?_ (not_or.mpr ⟨asDocument, asEvent⟩)
      rw [refused]
      exact fun ⟨_, impossible⟩ => nomatch impossible

namespace Service

variable {σ ρ τ : Type}

theorem printFormat_supported {service : Service σ ρ τ} {valid : Declaration}
    (validated : service.declaration.validate = .ok valid) :
    service.printSettings.format ∈ supportedFormats := by
  refine (Settings.validate_format_iff service.declaration.settings).mp fun unknown => ?_
  rw [Declaration.validate, unknown] at validated
  cases validated

theorem exists_rendering {service : Service σ ρ τ} {valid : Declaration}
    (validated : service.declaration.validate = .ok valid) (call : PrintCall) :
    ∃ text, Print.rendering Formatter.builtIn.renderer service.printSettings call = .ok text := by
  obtain ⟨text, rendered⟩ :=
    (Formatter.builtIn_ok_iff call.message (Print.options service.printSettings)
      (Print.metadata call.source)).mpr (printFormat_supported validated)
  exact ⟨text, Formatter.renderer_ok rendered⟩

variable [TargetSource σ]

/-- One print of a service, with the count of failed prints before and after it. -/
structure Printout where
  result : Print.Result
  sinks : Sinks
  failuresBefore : Nat
  failuresAfter : Nat

def printFailures (service : Service σ ρ τ) : Nat := service.reconciler.metrics.printFailures

/-- What comes of prints, each of them after any change of the reconciler. -/
def printouts (formatter : Formatter) (faults : SinkFaults) :
    List ((Reconciler σ ρ τ → Reconciler σ ρ τ) × PrintCall) → Service σ ρ τ → List Printout
  | [], _ => []
  | (change, call) :: later, service =>
      let before := service.withReconciler (change service.reconciler)
      let (result, sinks, after) := before.print formatter faults call
      ⟨result, sinks, before.printFailures, after.printFailures⟩ ::
        printouts formatter faults later after

/-- A print by a collector with a valid declaration goes well and leaves the collector alone. -/
theorem print_eq (service : Service σ ρ τ) {valid : Declaration}
    (validated : service.declaration.validate = .ok valid) (call : PrintCall) :
    ∃ sinks, service.print .builtIn .none call = (.ok (), sinks, service) ∧ sinks.echo = [] := by
  obtain ⟨text, renders⟩ := exists_rendering validated call
  obtain ⟨after, printed, echo, failures⟩ := Printing.quiet_print renders
    ⟨Sinks.empty, TargetSource.declaredCount service.reconciler.source, 0,
      service.reconciler.metrics.printFailures⟩
  have unchanged : service.withReconciler { service.reconciler with
      metrics := { service.reconciler.metrics with printFailures := after.failures } } =
      service := by
    rw [failures]
    rfl
  exact ⟨after.sinks, by simp only [print, Printing.print, printed, unchanged], echo⟩

theorem printouts_ok (uses : List ((Reconciler σ ρ τ → Reconciler σ ρ τ) × PrintCall))
    {service : Service σ ρ τ} {valid : Declaration}
    (validated : service.declaration.validate = .ok valid) :
    ∀ printout ∈ service.printouts .builtIn .none uses,
      printout.result = .ok () ∧ printout.sinks.echo = [] ∧
        printout.failuresAfter = printout.failuresBefore := by
  induction uses generalizing service with
  | nil => exact fun _ member => nomatch member
  | cons first later ih =>
      obtain ⟨change, call⟩ := first
      -- A change of the reconciler leaves the declaration as it is.
      obtain ⟨sinks, printed, silent⟩ :=
        print_eq (service.withReconciler (change service.reconciler)) validated call
      simp only [printouts, printed, List.forall_mem_cons]
      exact ⟨⟨trivial, silent, trivial⟩, ih validated⟩

/-- A format passes validation exactly when the built-in formatter renders every message in it, with
any metadata and layout. So a collector with a valid declaration prints whatever it is given,
whatever else happens in between: no print fails, and none is echoed or counted as failed. -/
theorem validated_formats_print :
    (∀ settings : Settings, settings.validate ≠ .error (.unknownFormat settings.format) ↔
      ∀ message options metadata, options.format = settings.format →
        ∃ rendering, Formatter.builtIn message options metadata = .ok rendering) ∧
    ∀ (service : Service σ ρ τ) (valid : Declaration),
      service.declaration.validate = .ok valid →
      ∀ (uses : List ((Reconciler σ ρ τ → Reconciler σ ρ τ) × PrintCall)),
        ∀ printout ∈ service.printouts .builtIn .none uses,
          printout.result = .ok () ∧ printout.sinks.echo = [] ∧
            printout.failuresAfter = printout.failuresBefore := by
  refine ⟨fun settings => ?_, fun service valid validated uses => printouts_ok uses validated⟩
  rw [settings.validate_format_iff]
  constructor
  · intro supported message options metadata same
    exact (Formatter.builtIn_ok_iff message options metadata).mpr (same ▸ supported)
  · intro renders
    exact (Formatter.builtIn_ok_iff (.get .null) ⟨false, [], settings.format⟩ .empty).mp
      (renders _ _ _ rfl)

end Service

end Telemetry
