import Telemetry.Proofs.Notice.Journal
import Telemetry.Proofs.Reconcile.Convergence
import Telemetry.Service.Launch

/-!
The start of the collector, step by step: the declaration is loaded, the service is built, the first
pass goes through its questions, the admin endpoint is tried, and then the file is watched. The file
may be rewritten between any two of these steps, and before it is watched nobody is told.
-/

namespace Telemetry

open Reconciler (Disturbance Journal)

/-- The world with another content in the file that is read for a path. -/
def World.rewritten (world : World) (path : String) (content : List UInt8) : World :=
  match Layer.findFile world.files path with
  | .error _ => world
  | .ok found =>
      match Files.write world.files found content with
      | .error _ => world
      | .ok files => { world with files := files }

/-- The notices of a change to the file that is read for a path, with the watchers that they are
for. -/
def reportsOf (watches : List FileWatch) (world : World) (path : String) (kind : FileEventKind) :
    List (Nat × Notice) :=
  match Layer.findFile world.files path with
  | .error _ => []
  | .ok found =>
      watches.zipIdx.filterMap fun (watch, index) =>
        (watch.noticeOf world.files kind found).map (index, ·)

namespace Startup

/-- How far the start has come. -/
inductive Stage where
  | loaded (world : World)
  /-- The service is built, and the first pass is under way. -/
  | passing (state : Reconciler PlacedSource Registry InitTask)
      (program : PassProgram (Option Report))
  | passed (state : Reconciler PlacedSource Registry InitTask)
  /-- The admin endpoint has been tried. -/
  | served (state : Reconciler PlacedSource Registry InitTask)
  /-- The file is watched; reports that have been made are on their way to the watchers. -/
  | watching (watches : List FileWatch) (reports : List (Nat × Notice))
      (journal : Journal PlacedSource Registry InitTask)

end Startup

structure Startup where
  loaded : Loaded
  stage : Startup.Stage
  /-- The world in which the first pass has read the file. -/
  first : Option World

namespace Startup

inductive Step where
  /-- The start goes one step on. -/
  | proceed (listen : Admin.Listen)
  /-- The file is given another content. -/
  | rewrite (kind : FileEventKind) (content : List UInt8)
  /-- Something more is reported of the file. -/
  | report (kind : FileEventKind)
  /-- The first report on its way reaches its watcher. -/
  | deliver
  | watcher (index : Nat)
  | beside (disturbance : Disturbance)
  | shutdown

def begin (loaded : Loaded) (world : World) : Startup := ⟨loaded, .loaded world, none⟩

def path (startup : Startup) : String := startup.loaded.path.getD ""

def launch (startup : Startup) (world : World) : Launch :=
  ⟨startup.loaded, startup.loaded.declaration.settings.logOutlet, world⟩

/-- The service before it watches its file. -/
def service (startup : Startup) (state : Reconciler PlacedSource Registry InitTask) :
    DefaultService :=
  ⟨startup.loaded.declaration, ⟨state, none, [], false, []⟩, [], [], [], []⟩

/-- The service when it has begun to watch. -/
def watchingService (startup : Startup) (state : Reconciler PlacedSource Registry InitTask) :
    DefaultService :=
  ((startup.launch state.source.world).watching (startup.service state)).noting
    [Launch.startedEntry]

def atStage (startup : Startup) (stage : Stage) : Startup := { startup with stage := stage }

def proceed (listen : Admin.Listen) (startup : Startup) : Startup :=
  match startup.stage with
  | .loaded world =>
      startup.atStage (.passing (startup.launch world).service.reconciler Pass.program)
  | .passing state (.ask question next) =>
      let (answer, after) := Reconciler.handler question state
      { startup with
        stage := .passing after (next answer)
        first := match Reconciler.reading (.ask question next) state with
          | source :: _ => some source.world
          | [] => startup.first }
  | .passing state (.done report) =>
      startup.atStage
        (.passed ((startup.service state).noting [Service.loadedEntry report]).reconciler)
  | .passed state =>
      startup.atStage (.served ((startup.service state).startAdmin listen).2.reconciler)
  | .served state =>
      let service := startup.watchingService state
      startup.atStage (.watching service.watches [] (Reconciler.Journal.begin service.watched))
  | .watching _ _ _ => startup

def rewriteIn (path : String) (content : List UInt8) (source : PlacedSource) : PlacedSource :=
  { source with world := source.world.rewritten path content }

namespace Stage

def rewrite (path : String) (kind : FileEventKind) (content : List UInt8) : Stage → Stage
  | .loaded world => .loaded (world.rewritten path content)
  | .passing state program =>
      .passing (state.withSource (rewriteIn path content state.source)) program
  | .passed state => .passed (state.withSource (rewriteIn path content state.source))
  | .served state => .served (state.withSource (rewriteIn path content state.source))
  | .watching watches reports journal =>
      let journal := journal.step (.rewrite (rewriteIn path content))
      .watching watches
        (reports ++ reportsOf watches journal.watched.state.source.world path kind) journal

def report (path : String) (kind : FileEventKind) : Stage → Stage
  | .watching watches reports journal =>
      .watching watches
        (reports ++ reportsOf watches journal.watched.state.source.world path kind) journal
  | stage => stage

/-- A report waits while the queue of its watcher is full. -/
def deliver : Stage → Stage
  | .watching watches ((index, notice) :: reports) journal =>
      if journal.accepts index then
        .watching watches reports (journal.step (.send index notice))
      else .watching watches ((index, notice) :: reports) journal
  | stage => stage

def beside (disturbance : Disturbance) : Stage → Stage
  | .loaded world => .loaded world
  | .passing state program => .passing (disturbance.apply state) program
  | .passed state => .passed (disturbance.apply state)
  | .served state => .served (disturbance.apply state)
  | .watching watches reports journal =>
      .watching watches reports (journal.step (.beside disturbance.apply))

/-- Once the file is watched, a watcher goes on, or all of them are told to stop. -/
def watchOn (step : Reconciler.JournalStep PlacedSource Registry InitTask) : Stage → Stage
  | .watching watches reports journal => .watching watches reports (journal.step step)
  | stage => stage

end Stage

def step (startup : Startup) : Step → Startup
  | .proceed listen => startup.proceed listen
  | .rewrite kind content => startup.atStage (startup.stage.rewrite startup.path kind content)
  | .report kind => startup.atStage (startup.stage.report startup.path kind)
  | .deliver => startup.atStage startup.stage.deliver
  | .watcher index => startup.atStage (startup.stage.watchOn (.watcher index))
  | .beside disturbance => startup.atStage (startup.stage.beside disturbance)
  | .shutdown => startup.atStage (startup.stage.watchOn .shutdown)

def run (startup : Startup) (steps : List Step) : Startup := steps.foldl step startup

theorem run_append (startup : Startup) (earlier later : List Step) :
    startup.run (earlier ++ later) = (startup.run earlier).run later :=
  List.foldl_append

variable {startup : Startup} {state : Reconciler PlacedSource Registry InitTask}

theorem world_run (program : PassProgram (Option Report))
    (state : Reconciler PlacedSource Registry InitTask) :
    (program.run Reconciler.handler state).2.source.world = state.source.world := by
  induction program generalizing state with
  | done result => rfl
  | ask question next ih =>
      refine (ih _ _).trans ?_
      cases question <;> rfl

/-- A first pass that nothing comes in the way of. -/
theorem run_pass (listen : Admin.Listen) (program : PassProgram (Option Report))
    (passing : startup.stage = .passing state program) :
    ∃ count first, startup.run (List.replicate count (.proceed listen)) =
      { startup with
        stage := .passed ((startup.service (program.run Reconciler.handler state).2).noting
          [Service.loadedEntry (program.run Reconciler.handler state).1]).reconciler
        first := first } := by
  induction program generalizing startup state with
  | done result =>
      refine ⟨1, startup.first, ?_⟩
      change startup.proceed listen = _
      simp only [proceed, passing]
      rfl
  | ask question next ih =>
      have onwards : (startup.proceed listen).stage =
          .passing (Reconciler.handler question state).2
            (next (Reconciler.handler question state).1) := by
        simp only [proceed, passing]
      obtain ⟨count, first, rest⟩ := ih _ onwards
      refine ⟨count + 1, first, ?_⟩
      rw [List.replicate_succ]
      change (startup.proceed listen).run _ = _
      rw [rest]
      have sameLoaded : (startup.proceed listen).loaded = startup.loaded := by
        simp only [proceed, passing]
      simp only [sameLoaded, service]
      rfl

theorem noting_nil (service : DefaultService) : service.noting [] = service := by
  simp [Service.noting, Service.withReconciler, Service.log, Service.reconciler]

/-- Trying the admin endpoint only adds to the log. -/
theorem startAdmin_eq (listen : Admin.Listen) (service : DefaultService) :
    ∃ entries, (service.startAdmin listen).2 = service.noting entries := by
  unfold Service.startAdmin
  dsimp only
  split
  · exact ⟨[], (noting_nil service).symm⟩
  · split
    · exact ⟨_, rfl⟩
    · split <;> exact ⟨_, rfl⟩

theorem frame_watching (launch : Launch) (service : DefaultService) :
    (launch.watching service).declaration = service.declaration ∧
      (launch.watching service).failures = service.failures ∧
      (launch.watching service).calls = service.calls := by
  unfold Launch.watching Service.watch
  cases service.configPath with
  | none => exact ⟨rfl, rfl, rfl⟩
  | some path =>
      dsimp only
      cases FileWatch.start launch.world.files path <;> exact ⟨rfl, rfl, rfl⟩

/-- From the end of the first pass there are two more steps to the watch. -/
theorem run_passed (listen : Admin.Listen) (passed : startup.stage = .passed state) :
    ∃ entries, ((startup.service state).startAdmin listen).2 =
        (startup.service state).noting entries ∧
      let served := startup.watchingService ((startup.service state).noting entries).reconciler
      (startup.run [.proceed listen, .proceed listen]).stage =
        .watching served.watches [] (Reconciler.Journal.begin served.watched) := by
  obtain ⟨entries, admin⟩ := startAdmin_eq listen (startup.service state)
  refine ⟨entries, admin, ?_⟩
  have once : startup.proceed listen =
      startup.atStage (.served ((startup.service state).noting entries).reconciler) := by
    simp only [proceed, passed, admin]
  change ((startup.proceed listen).proceed listen).stage = _
  rw [once]
  rfl

/-- Without rewriting the steps come to what the start is as a whole. -/
theorem run_unhindered (loaded : Loaded) (world : World) (listen : Admin.Listen) :
    ∃ count watches watched tasks,
      ((begin loaded world).run (List.replicate count (.proceed listen))).stage =
        .watching watches [] (Reconciler.Journal.begin watched) ∧
      (((begin loaded world).launch world).begin listen).2 =
        ⟨loaded.declaration, watched, watches, tasks, [], []⟩ := by
  let launch := (begin loaded world).launch world
  let passedService := launch.service.loadInitial.2
  obtain ⟨count, first, passed⟩ := @run_pass ((begin loaded world).run [.proceed listen])
    launch.service.reconciler listen Pass.program rfl
  let passedStartup : Startup := ⟨loaded, .passed passedService.reconciler, first⟩
  have sameStartup : ((begin loaded world).run [.proceed listen]).run
      (List.replicate count (.proceed listen)) = passedStartup := passed
  obtain ⟨entries, admin, watching⟩ :=
    @run_passed passedStartup passedService.reconciler listen rfl
  have replicated : List.replicate (1 + count + 2) (Step.proceed listen) =
      [.proceed listen] ++ List.replicate count (.proceed listen) ++
        [.proceed listen, .proceed listen] := by
    rw [← List.replicate_append_replicate, ← List.replicate_append_replicate]
    rfl
  let served := passedService.noting entries
  let begun := passedStartup.watchingService served.reconciler
  refine ⟨1 + count + 2, begun.watches, begun.watched, begun.tasks, ?_, ?_⟩
  · rw [replicated, run_append, run_append, sameStartup]
    exact watching
  · have asWhole : (launch.begin listen).2 =
        (launch.watching (passedService.startAdmin listen).2).noting [Launch.startedEntry] := rfl
    have sameWorld : served.reconciler.source.world = world :=
      world_run Pass.program launch.service.reconciler
    have sameLaunch : passedStartup.launch served.reconciler.source.world = launch := by
      rw [sameWorld]
      rfl
    have sameServed : (passedService.startAdmin listen).2 = served := admin
    obtain ⟨declared, failures, calls⟩ := frame_watching launch served
    change _ = loaded.declaration at declared
    change _ = [] at failures calls
    have sameBegun : begun = (launch.watching served).noting [Launch.startedEntry] := by
      simp only [begun, watchingService, sameLaunch]
      rfl
    change (launch.begin listen).2 = _
    rw [asWhole, sameServed, sameBegun, ← declared]
    simp only [← failures, ← calls]
    rfl

end Startup

end Telemetry
