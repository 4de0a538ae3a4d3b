import Telemetry.Proofs.Reconcile.InitActs
import Telemetry.Proofs.Reconcile.LiveNames
import Telemetry.Proofs.Registry.History

/-!
A registry that follows a file. Notices come one after the other, with the file and the environment
in any state at each, while initialisations go on before, between and during the passes.
-/

namespace Telemetry

namespace Initialising

variable {state : Initialising}

/-- What is logged already changes nothing of what an initialisation does. -/
theorem step_relogged (state : Initialising) (step : InitStep) (log : List LogEntry) :
    ∃ after, { state with log := log }.step step = { state.step step with log := after } := by
  cases step with
  | proceed place =>
      change ∃ after, { state with log := log }.proceed place =
        { state.proceed place with log := after }
      unfold proceed
      dsimp only
      split
      · split <;> exact ⟨_, rfl⟩
      · exact ⟨_, rfl⟩
      · exact ⟨_, rfl⟩
      · exact ⟨log, rfl⟩
  | conclude place ending =>
      change ∃ after, { state with log := log }.conclude place ending =
        { state.conclude place ending with log := after }
      unfold conclude
      dsimp only
      split
      · rename_i seen _
        have sameGuard : { state with log := log }.allows seen ending =
            state.allows seen ending := rfl
        rw [sameGuard]
        split <;> exact ⟨log, rfl⟩
      · exact ⟨log, rfl⟩
  | abandon place => exact ⟨log, rfl⟩

theorem deletes_step (state : Initialising) (step : InitStep) :
    (state.step step).metrics.deletes = state.metrics.deletes := by
  cases step with
  | proceed place =>
      change (state.proceed place).metrics.deletes = _
      unfold proceed
      split
      · split <;> rfl
      · rfl
      · rename_i seen ending _
        cases ending with
        | connected channel =>
            simp only [Registry.countEnding]
            split <;> rfl
        | failed reason => rfl
        | cancelled => rfl
      · rfl
  | conclude place ending =>
      change (state.conclude place ending).metrics.deletes = _
      unfold conclude
      split
      · split <;> rfl
      · rfl
  | abandon place => rfl

theorem mem_names_step (state : Initialising) (step : InitStep) (name : String) :
    name ∈ (state.step step).registry.names ↔ name ∈ state.registry.names := by
  rcases state.step_registry_cases step with same | ⟨seen, mark, marked⟩
  · rw [same]
  · rw [marked, Registry.mem_names_update]

end Initialising

namespace Reconciler

variable {σ : Type}

theorem deletes_initStep (state : Reconciler σ Registry InitTask) (step : InitStep) :
    (state.initStep step).metrics.deletes = state.metrics.deletes := by
  refine Eq.trans ?_ (state.initialising.deletes_step step)
  rcases state.initStep_cases step with same | same <;> rw [same] <;> rfl

theorem initStep_relogged (state : Reconciler σ Registry InitTask) (step : InitStep)
    (log : List LogEntry) :
    ∃ after, { state with log := log }.initStep step = { state.initStep step with log := after } := by
  obtain ⟨after, same⟩ := state.initialising.step_relogged step log
  refine ⟨after, ?_⟩
  have sameEnd : { state with log := log }.initialising.endOf step =
      state.initialising.endOf step := by
    cases step <;> rfl
  have stepped : { state with log := log }.initialising.step step = _ := same
  rw [initStep, initStep, sameEnd, stepped]
  cases state.initialising.endOf step with
  | none => rfl
  | some how => cases how <;> rfl

/-- What happens beside the passes. -/
inductive Disturbance where
  | init (step : InitStep)
  | shutdown

def Disturbance.apply (disturbance : Disturbance) (state : Reconciler σ Registry InitTask) :
    Reconciler σ Registry InitTask :=
  match disturbance with
  | .init step => state.initStep step
  | .shutdown => { state with shutdown := true }

theorem Disturbance.steady (disturbance : Disturbance) (state : Reconciler σ Registry InitTask) :
    Steady state (disturbance.apply state) := by
  cases disturbance with
  | init step =>
      refine ⟨fun name => ?_, state.source_initStep step, ?_⟩
      · change name ∈ (state.initStep step).registry.names ↔ _
        rw [registry_initStep]
        exact state.initialising.mem_names_step step name
      · exact congrArg Tally.failed (state.deletes_initStep step)
  | shutdown => exact ⟨fun _ => Iff.rfl, rfl, rfl⟩

theorem Disturbance.relogged (disturbance : Disturbance) (state : Reconciler σ Registry InitTask)
    (log : List LogEntry) :
    ∃ after, disturbance.apply { state with log := log } =
      { disturbance.apply state with log := after } := by
  cases disturbance with
  | init step => exact state.initStep_relogged step log
  | shutdown => exact ⟨log, rfl⟩

/-- A notice, with the files and the environment as they are then, and what happens beside the pass
that it calls for: before the first question of the pass, before the second one, and so on. -/
structure Occasion where
  notice : Notice
  world : World
  beside : List (List Disturbance)

namespace Occasion

variable {state before : Reconciler PlacedSource Registry InitTask}

def changes (occasion : Occasion) :
    List (List (Reconciler σ Registry InitTask → Reconciler σ Registry InitTask)) :=
  occasion.beside.map (·.map Disturbance.apply)

def meets (occasion : Occasion) (state : Reconciler PlacedSource Registry InitTask) :
    Reconciler PlacedSource Registry InitTask :=
  { state with source := { state.source with world := occasion.world } }

/-- The state in which the pass reads what is declared. -/
def reading (occasion : Occasion) (state : Reconciler PlacedSource Registry InitTask) :
    Reconciler PlacedSource Registry InitTask :=
  Program.change (occasion.changes.headD []) (occasion.meets state)

/-- All that happens beside the pass, and no pass. -/
def withoutPass (occasion : Occasion) (state : Reconciler PlacedSource Registry InitTask) :
    Reconciler PlacedSource Registry InitTask :=
  Program.change occasion.changes.flatten (occasion.meets state)

def handle (occasion : Occasion) (state : Reconciler PlacedSource Registry InitTask) :
    Option Report × Reconciler PlacedSource Registry InitTask :=
  match passFor occasion.notice with
  | some pass => pass.runAmid handler occasion.changes (occasion.meets state)
  | none => (none, occasion.withoutPass state)

/-- When nothing else happens, the notice is simply handled. -/
theorem handle_alone (notice : Notice) (world : World) :
    handle ⟨notice, world, []⟩ state = reconcile notice (meets ⟨notice, world, []⟩ state) := by
  unfold handle reconcile
  cases passFor notice with
  | some pass => exact Program.runAmid_nil pass _
  | none => rfl

theorem changes_steady (occasion : Occasion) :
    ∀ some ∈ occasion.changes, ∀ one ∈ some, ∀ state : Reconciler σ Registry InitTask,
      Steady state (one state) := by
  intro some inChanges one inSome state
  obtain ⟨disturbances, _, rfl⟩ := List.mem_map.mp inChanges
  obtain ⟨disturbance, _, rfl⟩ := List.mem_map.mp inSome
  exact disturbance.steady state

theorem withoutPass_steady (occasion : Occasion)
    (state : Reconciler PlacedSource Registry InitTask) :
    Steady (occasion.meets state) (occasion.withoutPass state) := by
  refine Program.change_allowed .refl .trans ?_
  intro one member
  obtain ⟨some, inChanges, inSome⟩ := List.mem_flatten.mp member
  exact occasion.changes_steady some inChanges one inSome

theorem mem_flatten_of_tail {α : Type} {lists : List (List α)} {one : α}
    (member : one ∈ lists.tail.flatten) : one ∈ lists.flatten := by
  obtain ⟨some, inRest, inSome⟩ := List.mem_flatten.mp member
  exact List.mem_flatten.mpr ⟨some, List.mem_of_mem_tail inRest, inSome⟩

theorem change_relogged {occasion : Occasion}
    {some : List (Reconciler σ Registry InitTask → Reconciler σ Registry InitTask)}
    (within : ∀ one ∈ some, one ∈ occasion.changes.flatten)
    (state : Reconciler σ Registry InitTask) (log : List LogEntry) :
    ∃ after, Program.change some { state with log := log } =
      { Program.change some state with log := after } := by
  induction some generalizing state log with
  | nil => exact ⟨log, rfl⟩
  | cons first rest ih =>
      obtain ⟨changes, inChanges, inSome⟩ := List.mem_flatten.mp (within first List.mem_cons_self)
      obtain ⟨disturbances, _, rfl⟩ := List.mem_map.mp inChanges
      obtain ⟨disturbance, _, rfl⟩ := List.mem_map.mp inSome
      obtain ⟨middle, same⟩ := disturbance.relogged state log
      obtain ⟨after, others⟩ := ih (fun one member => within one (List.mem_cons_of_mem _ member))
        (disturbance.apply state) middle
      exact ⟨after, (congrArg (Program.change rest) same).trans others⟩

/-- The registry follows the file at the path. -/
structure Follows (path : String) (state : Reconciler PlacedSource Registry InitTask) : Prop where
  path : state.source.source.path = some path
  noFailedDelete : state.metrics.deletes.failed = 0

variable {path : String}

theorem Follows.steady {later : Reconciler PlacedSource Registry InitTask}
    (follows : Follows path state) (steady : Steady state later) : Follows path later :=
  ⟨(congrArg (·.source.path) steady.source).trans follows.path,
    steady.failedDeletes.trans follows.noFailedDelete⟩

theorem Follows.meets (follows : Follows path state) (occasion : Occasion) :
    Follows path (occasion.meets state) :=
  ⟨follows.path, follows.noFailedDelete⟩

theorem handle_of_other (occasion : Occasion)
    (state : Reconciler PlacedSource Registry InitTask)
    (other : occasion.notice.kind.triggersPass = false) :
    occasion.handle state = (none, occasion.withoutPass state) := by
  have noPass : passFor occasion.notice = none := by rw [passFor, if_neg (by simp [other])]
  rw [handle, noPass]

theorem handle_of_trigger (occasion : Occasion)
    (triggers : occasion.notice.kind.triggersPass = true) {answer : Except Error TargetSet}
    {source : FileSource}
    (read : (occasion.reading state).source.source.read (occasion.reading state).source.world =
      (answer, source)) :
    occasion.handle state = (Pass.afterReading answer).runAmid handler occasion.changes.tail
      { occasion.reading state with
        source := { (occasion.reading state).source with source := source } } := by
  have pass : passFor occasion.notice = some Pass.program := by rw [passFor, if_pos triggers]
  have asked : handler .declared (occasion.reading state) =
      (answer, { occasion.reading state with
        source := { (occasion.reading state).source with source := source } }) := by
    simp only [handler, TargetSource.read, read]
    rfl
  rw [handle, pass]
  simp only
  rw [Pass.program_eq, Program.runAmid_ask, ← reading, asked]

theorem reading_steady (occasion : Occasion)
    (state : Reconciler PlacedSource Registry InitTask) :
    Steady (occasion.meets state) (occasion.reading state) := by
  refine Program.change_allowed .refl .trans ?_
  cases listed : occasion.changes with
  | nil => exact fun one member => by cases member
  | cons first rest => exact occasion.changes_steady first (listed ▸ List.mem_cons_self)

theorem reading_source (occasion : Occasion) (state : Reconciler PlacedSource Registry InitTask) :
    (occasion.reading state).source = ⟨state.source.source, occasion.world⟩ :=
  (occasion.reading_steady state).source

/-- A file that cannot be used changes nothing but the log. -/
theorem handle_of_unusable (follows : Follows path state) (occasion : Occasion)
    (triggers : occasion.notice.kind.triggersPass = true) {reason : Error}
    (unusable : Declaration.checked (Declaration.ofFile occasion.world path) = .error reason) :
    (occasion.handle state).1 = none ∧
      ∃ log, (occasion.handle state).2 = { occasion.withoutPass state with log := log } := by
  have read : (occasion.reading state).source.source.read (occasion.reading state).source.world =
      (.error reason, state.source.source) := by
    rw [reading_source]
    exact FileSource.read_of_unusable follows.path unusable
  have refused : Pass.afterReading (.error reason) =
      .ask (.note (Pass.unreadEntry reason)) fun _ => .done none := by
    rw [Pass.afterReading, if_neg (by simp [Declaration.not_isNoTargets_of_checked unusable])]
  have sameSource : (occasion.reading state).source.source = state.source.source := by
    rw [reading_source]
  rw [occasion.handle_of_trigger triggers read, refused, ← sameSource, Program.runAmid_ask]
  refine ⟨rfl, ?_⟩
  obtain ⟨log, relogged⟩ := change_relogged
    (fun one member => mem_flatten_of_tail (mem_flatten_of_tail member))
    (Program.change (occasion.changes.tail.headD []) (occasion.reading state))
    ((Program.change (occasion.changes.tail.headD []) (occasion.reading state)).log ++
      [Pass.unreadEntry reason])
  have rest : occasion.withoutPass state = Program.change occasion.changes.tail.tail.flatten
      (Program.change (occasion.changes.tail.headD []) (occasion.reading state)) :=
    (Program.change_flatten _ _).trans (Program.change_flatten _ _)
  rw [rest]
  exact ⟨log, relogged⟩

/-- When the file can be used, its targets are live that were live before or that can be dialled,
and no others. -/
theorem handle_of_usable (follows : Follows path state) (occasion : Occasion)
    (triggers : occasion.notice.kind.triggersPass = true) {declaration : Declaration}
    (usable : Declaration.checked (Declaration.ofFile occasion.world path) = .ok declaration) :
    (∃ report, (occasion.handle state).1 = some report ∧ report.failedDeletes = []) ∧
      Follows path (occasion.handle state).2 ∧
      ∀ name, name ∈ (occasion.handle state).2.registry.names ↔
        ∃ target, declaration.targets.get? name = some target ∧
          (name ∈ state.registry.names ∨
            (target.resolve name declaration.settings).isDialable = true) := by
  have read : (occasion.reading state).source.source.read (occasion.reading state).source.world =
      (FileSource.resolved declaration, { state.source.source with current := declaration }) := by
    rw [reading_source]
    exact FileSource.read_of_usable follows.path usable
  rw [occasion.handle_of_trigger triggers read, Pass.afterReading_resolved]
  have unread : Follows path (occasion.reading state) :=
    (follows.meets occasion).steady (occasion.reading_steady state)
  let updated : FileSource := { state.source.source with current := declaration }
  have ensured := forDeclared_ensures
    { occasion.reading state with
      source := { (occasion.reading state).source with source := updated } }
    declaration.isKeyed_resolvedSet
  obtain ⟨reported, reached⟩ := ensured.runAmid .refl .trans
    (fun some member => occasion.changes_steady some (List.mem_of_mem_tail member))
  refine ⟨reported, ⟨?_, ?_⟩, ?_⟩
  · exact (congrArg (·.source.path) reached.source).trans follows.path
  · exact reached.failedDeletes.trans unread.noFailedDelete
  · intro name
    have stays := (occasion.reading_steady state).names name
    rw [reached.names name]
    simp only [Declaration.get?_resolvedSet, Option.map_eq_some_iff]
    constructor
    · rintro ⟨_, ⟨target, found, rfl⟩, reason⟩
      exact ⟨target, found, reason.imp_left stays.mp⟩
    · rintro ⟨target, found, reason⟩
      exact ⟨_, ⟨target, found, rfl⟩, reason.imp_left stays.mpr⟩

theorem handle_follows (follows : Follows path state) (occasion : Occasion) :
    Follows path (occasion.handle state).2 := by
  have without := (follows.meets occasion).steady (occasion.withoutPass_steady state)
  cases triggers : occasion.notice.kind.triggersPass with
  | false =>
      rw [occasion.handle_of_other state triggers]
      exact without
  | true =>
      cases usable : Declaration.checked (Declaration.ofFile occasion.world path) with
      | ok declaration => exact (handle_of_usable follows occasion triggers usable).2.1
      | error reason =>
          obtain ⟨_, log, same⟩ := handle_of_unusable follows occasion triggers usable
          rw [same]
          exact ⟨without.path, without.noFailedDelete⟩

def handleAll (occasions : List Occasion) (state : Reconciler PlacedSource Registry InitTask) :
    Reconciler PlacedSource Registry InitTask :=
  occasions.foldl (fun state occasion => (occasion.handle state).2) state

theorem handleAll_follows (follows : Follows path state) (occasions : List Occasion) :
    Follows path (handleAll occasions state) := by
  induction occasions generalizing state with
  | nil => exact follows
  | cons first rest ih => exact ih (handle_follows follows first)

/-- The registry follows the file, whatever came before: a write or a creation of a file that can be
used leaves live, of the declared targets, those that were live before or that can be dialled, and
no others. Any other notice does nothing but log. No deletion ever fails. -/
theorem registry_follows_file (path : String) (initial : Declaration) (world : World)
    (dialing : Dialing) (earlier : List Occasion) (occasion : Occasion) :
    let before := handleAll earlier (start ⟨⟨some path, initial⟩, world⟩ (Registry.empty dialing))
    let handled := occasion.handle before
    handled.2.metrics.deletes.failed = 0 ∧
      match occasion.notice.kind.triggersPass,
        Declaration.checked (Declaration.ofFile occasion.world path) with
      | true, .ok declaration =>
          (∃ report, handled.1 = some report ∧ report.failedDeletes = []) ∧
            (∀ name, name ∈ handled.2.registry.names ↔
              ∃ target, declaration.targets.get? name = some target ∧
                (name ∈ before.registry.names ∨
                  (target.resolve name declaration.settings).isDialable = true)) ∧
            (declaration.targets.isEmpty = true → handled.2.registry.names = [])
      | _, _ =>
          handled.1 = none ∧
            ∃ log, handled.2 = { occasion.withoutPass before with log := log } := by
  intro before handled
  have follows : Follows path before := handleAll_follows ⟨rfl, rfl⟩ earlier
  refine ⟨(handle_follows follows occasion).noFailedDelete, ?_⟩
  cases triggers : occasion.notice.kind.triggersPass with
  | false =>
      have ignored := occasion.handle_of_other before triggers
      exact ⟨congrArg Prod.fst ignored, _, congrArg Prod.snd ignored⟩
  | true =>
      cases usable : Declaration.checked (Declaration.ofFile occasion.world path) with
      | ok declaration =>
          obtain ⟨reported, _, names⟩ := handle_of_usable follows occasion triggers usable
          refine ⟨reported, names, ?_⟩
          intro nothing
          refine List.eq_nil_iff_forall_not_mem.mpr ?_
          intro name live
          obtain ⟨target, found, _⟩ := (names name).mp live
          have declared := NameMap.mem_entries.mpr found
          rw [List.isEmpty_iff.mp nothing] at declared
          cases declared
      | error reason => exact handle_of_unusable follows occasion triggers usable

end Occasion

end Reconciler

end Telemetry
