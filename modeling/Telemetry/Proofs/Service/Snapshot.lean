import Telemetry.Proofs.Declaration.Resolved
import Telemetry.Proofs.Print.Labels
import Telemetry.Service.Basic

/-!
The declaration that a file source keeps is the last one that it could use, whatever else happens in
the service; printing goes by it, and not by what the registry has accepted.
-/

namespace Telemetry

namespace FileSource

/-- The declaration that comes of reading the file in a world, if it can be used. -/
def usable? (path : String) (world : World) : Option Declaration :=
  (Declaration.checked (Declaration.ofFile world path)).toOption

/-- The last declaration that could be used, when the file was read in some worlds in turn. -/
def lastUsable (path : String) (initial : Declaration) (worlds : List World) : Declaration :=
  (worlds.filterMap (usable? path)).getLastD initial

variable {path : String} {initial : Declaration} {world : World}

theorem lastUsable_cons (path : String) (initial : Declaration) (world : World)
    (worlds : List World) :
    lastUsable path initial (world :: worlds) =
      lastUsable path ((usable? path world).getD initial) worlds := by
  unfold lastUsable
  cases usable : usable? path world with
  | none => rw [List.filterMap_cons_none usable, Option.getD_none]
  | some declaration => rw [List.filterMap_cons_some usable, List.getLastD_cons, Option.getD_some]

theorem current_read (path : String) (initial : Declaration) (world : World) :
    (read ⟨some path, initial⟩ world).2 = ⟨some path, (usable? path world).getD initial⟩ := by
  cases checked : Declaration.checked (Declaration.ofFile world path) with
  | ok declaration => rw [read_of_usable rfl checked, usable?, checked]; rfl
  | error reason => rw [read_of_unusable rfl checked, usable?, checked]; rfl

theorem read_placed (source : FileSource) (world : World) :
    TargetSource.read (PlacedSource.mk source world) =
      ((source.read world).1, ⟨(source.read world).2, world⟩) := rfl

theorem resolved_eq (declaration : Declaration) :
    resolved declaration =
      if declaration.targets.isEmpty then .error (.target .noTargets)
      else .ok declaration.resolvedSet := by
  by_cases nothing : declaration.targets.isEmpty
  · simp [resolved, Declaration.resolvedTargets, nothing]
  · simp [resolved, Declaration.resolvedTargets, nothing, Declaration.resolvedSet]

end FileSource

namespace Service

open FileSource (lastUsable)

variable {ρ τ : Type} [TargetRegistry ρ τ]

/-- What can happen in a service with a file source. A pass is a series of questions, of which
anything else can come in between. -/
inductive Happening (ρ τ : Type) where
  | change (world : World)
  | ask (question : PassQuestion)
  | print (formatter : Formatter) (faults : SinkFaults) (call : PrintCall)
  /-- The registry and the initialisations go on by themselves. -/
  | registry (registry : ρ) (pending : List τ)

def take (service : Service PlacedSource ρ τ) : Happening ρ τ → Service PlacedSource ρ τ
  | .change world => service.withReconciler { service.reconciler with
      source := { service.reconciler.source with world := world } }
  | .ask question => service.withReconciler (Reconciler.handler question service.reconciler).2
  | .print formatter faults call => (service.print formatter faults call).2.2
  | .registry registry pending => service.withReconciler { service.reconciler with
      registry := registry
      pending := pending }

def run (service : Service PlacedSource ρ τ) (happenings : List (Happening ρ τ)) :
    Service PlacedSource ρ τ :=
  happenings.foldl take service

/-- The worlds in which the declared targets are asked for, and the world in the end. -/
def worlds (world : World) : List (Happening ρ τ) → List World × World
  | [] => ([], world)
  | .change other :: happenings => worlds other happenings
  | .ask .declared :: happenings =>
      let (asked, last) := worlds world happenings
      (world :: asked, last)
  | _ :: happenings => worlds world happenings

variable {service : Service PlacedSource ρ τ} {path : String} {initial : Declaration}
  {world : World}

/-- A pass is a series of questions. -/
theorem reconcile_eq_run (notice : Notice) (service : Service PlacedSource ρ τ) :
    ∃ questions : List PassQuestion,
      (service.reconcile notice).2 = service.run (questions.map .ask) := by
  have answered : ∀ (program : PassProgram (Option Report)) (service : Service PlacedSource ρ τ),
      ∃ questions : List PassQuestion,
        service.withReconciler (program.run Reconciler.handler service.reconciler).2 =
          service.run (questions.map .ask) := by
    intro program
    induction program with
    | done result => exact fun service => ⟨[], rfl⟩
    | ask question next ih =>
        intro service
        obtain ⟨questions, others⟩ := ih (Reconciler.handler question service.reconciler).1
          (service.take (.ask question))
        exact ⟨question :: questions, others⟩
  cases pass : Reconciler.passFor notice with
  | none => exact ⟨[], by rw [reconcile, Reconciler.reconcile, pass]; rfl⟩
  | some program =>
      obtain ⟨questions, run⟩ := answered program service
      exact ⟨questions, by rw [reconcile, Reconciler.reconcile, pass]; exact run⟩

theorem source_take (happening : Happening ρ τ) (happenings : List (Happening ρ τ))
    (source : service.reconciler.source = ⟨⟨some path, initial⟩, world⟩) :
    ∃ current now, (service.take happening).reconciler.source = ⟨⟨some path, current⟩, now⟩ ∧
      lastUsable path current (worlds now happenings).1 =
        lastUsable path initial (worlds world (happening :: happenings)).1 ∧
      (worlds now happenings).2 = (worlds world (happening :: happenings)).2 := by
  cases happening with
  | change other =>
      refine ⟨initial, other, ?_, rfl, rfl⟩
      change (PlacedSource.mk service.reconciler.source.source other) = _
      rw [source]
  | ask question =>
      cases question with
      -- No other question reads the file.
      | declared =>
          refine ⟨_, world, ?_, (FileSource.lastUsable_cons path initial world _).symm, rfl⟩
          change (TargetSource.read service.reconciler.source).2 = _
          rw [source, FileSource.read_placed, FileSource.current_read]
      | _ => exact ⟨initial, world, source, rfl, rfl⟩
  | _ => exact ⟨initial, world, source, rfl, rfl⟩

theorem source_run (happenings : List (Happening ρ τ))
    (source : service.reconciler.source = ⟨⟨some path, initial⟩, world⟩) :
    (service.run happenings).reconciler.source =
      ⟨⟨some path, lastUsable path initial (worlds world happenings).1⟩,
        (worlds world happenings).2⟩ := by
  induction happenings generalizing service initial world with
  | nil => exact source
  | cons happening happenings ih =>
      obtain ⟨current, now, after, sameUsable, sameWorld⟩ := source_take happening happenings source
      rw [← sameUsable, ← sameWorld]
      exact ih after

theorem declaration_run (happenings : List (Happening ρ τ)) (service : Service PlacedSource ρ τ) :
    (service.run happenings).declaration = service.declaration := by
  induction happenings generalizing service with
  | nil => rfl
  | cons happening happenings ih =>
      refine (ih (service.take happening)).trans ?_
      cases happening <;> rfl

omit [TargetRegistry ρ τ] in
/-- A print writes a text of which each line has the label that the last declaration calls for. -/
theorem out_print (formatter : Formatter) (faults : SinkFaults) (call : PrintCall)
    (service : Service PlacedSource ρ τ) :
    let text := Print.outText formatter service.printSettings call
      (Print.lineLabel service.printSettings
        (TargetSource.declaredCount service.reconciler.source) call.source)
    let printed := service.print formatter faults call
    printed.2.1.out <+: text ∧ (¬ Printing.Refused faults printed.1 → printed.2.1.out = text) := by
  intro text printed
  have delivers := Printing.delivers_print formatter.renderer faults service.printSettings call
    ⟨Sinks.empty, TargetSource.declaredCount service.reconciler.source, 0,
      service.reconciler.metrics.printFailures⟩
  obtain ⟨written, content, within, whole⟩ := delivers.content .out
  rw [Print.textOn_pieces] at within whole
  have out : printed.2.1.out = written := content
  rw [out]
  exact ⟨within, whole⟩

/-- Whatever happens in a service that declares its targets in a file: the declaration kept is the
last one that came of a reading and could be used, and it is the first one while there is none. To
ask for the targets is to read the file as it is; if it can be used, it is what is kept, and the
answer is its targets or that there are none, and if not, nothing changes. A print labels its lines
just when the declaration kept has several targets and labels are on: what it writes has the lines
of what it would write without a label, each with the label in front, as long as the label and the
lines of a layout have no break in them. -/
theorem keeps_last_usable (declaration initial : Declaration) (path : String) (world : World)
    (registry : ρ) (happenings : List (Happening ρ τ)) :
    let start : Service PlacedSource ρ τ :=
      Service.start declaration ⟨⟨some path, initial⟩, world⟩ registry
    let service := start.run happenings
    let last := lastUsable path initial (worlds world happenings).1
    let now := (worlds world happenings).2
    service.reconciler.source = ⟨⟨some path, last⟩, now⟩ ∧
      (∀ good, Declaration.checked (Declaration.ofFile now path) = .ok good →
        TargetSource.read service.reconciler.source =
          (if good.targets.isEmpty then .error (.target .noTargets) else .ok good.resolvedSet,
            ⟨⟨some path, good⟩, now⟩)) ∧
      (∀ reason, Declaration.checked (Declaration.ofFile now path) = .error reason →
        reason.isNoTargets = false ∧
          TargetSource.read service.reconciler.source =
            (.error reason, service.reconciler.source)) ∧
      ∀ formatter faults call,
        let label := if 1 < last.targets.size ∧ declaration.settings.noLabels = false then
          Print.sourceLabel call.source else []
        let settings := PrintSettings.ofSettings declaration.settings
        let text := Print.outText formatter settings call label
        let printed := service.print formatter faults call
        Print.lineLabel service.printSettings
            (TargetSource.declaredCount service.reconciler.source) call.source = label ∧
          printed.2.1.out <+: text ∧
          (¬ Printing.Refused faults printed.1 → printed.2.1.out = text) ∧
          (writtenLines text =
              (writtenLines (Print.outText formatter settings call [])).map (label ++ ·) ↔
            text = [] ∨ label = [] ∨
              ('\n' ∉ label ∧ ∀ content, Print.laidOut? settings call.message = some content →
                content.HasWholeLines)) := by
  intro start service last now
  have source : service.reconciler.source = ⟨⟨some path, last⟩, now⟩ := source_run happenings rfl
  have settings : service.printSettings = PrintSettings.ofSettings declaration.settings := by
    rw [printSettings, declaration_run happenings start]
    rfl
  refine ⟨source, ?_, ?_, ?_⟩
  · intro good usable
    rw [source, FileSource.read_placed, FileSource.read_of_usable rfl usable,
      FileSource.resolved_eq]
  · intro reason unusable
    refine ⟨Declaration.not_isNoTargets_of_checked unusable, ?_⟩
    rw [source, FileSource.read_placed, FileSource.read_of_unusable rfl unusable]
  · intro formatter faults call label _ _ _
    have printed := out_print formatter faults call service
    have labelled : Print.lineLabel service.printSettings
        (TargetSource.declaredCount service.reconciler.source) call.source = label := by
      have count : TargetSource.declaredCount service.reconciler.source = last.targets.size := by
        rw [source]
        rfl
      rw [count, settings]
      simp [Print.lineLabel, PrintSettings.ofSettings, label]
    rw [labelled, settings] at printed
    exact ⟨labelled, printed.1, printed.2, Print.contentText_labelled_iff label⟩

end Service

end Telemetry
