import Telemetry.Declaration.Shown
import Telemetry.LogFilter
import Telemetry.Service.Shutdown

/-!
A run of the collector from the command line: what is loaded, where the log goes, the steps of the
start in their order, and the end on a signal.
-/

namespace Telemetry

/-- Where the log of a run goes. -/
inductive LogOutlet where
  | nowhere
  | errors
  | file (path : String)
deriving DecidableEq, Repr

def Settings.logOutlet (settings : Settings) : LogOutlet :=
  if !settings.loggingEnabled then .nowhere
  else if settings.logFile = "" then .errors
  else .file settings.logFile

/-- The variable with directives about the log. -/
def filterVariable : String := "RUST_LOG"

/-- How far the log goes without directives. -/
def Settings.logLevel (settings : Settings) : LogLevel := if settings.debug then .debug else .info

/-- A signal that ends a run. -/
inductive StopSignal where
  | interrupt
  | terminate
deriving DecidableEq, Repr

def StopSignal.label : StopSignal → String
  | .interrupt => "SIGINT"
  | .terminate => "SIGTERM"

/-- A run that can begin. -/
structure Launch where
  loaded : Loaded
  outlet : LogOutlet
  /-- The world with the log file in it. -/
  world : World

/-- The service of a run, with file, registry and formatter as they are by default. -/
abbrev DefaultService := Service PlacedSource Registry InitTask

namespace Launch

/-- Loads the declaration and sees that its log can be written. -/
def prepare (world : World) : Except Error Launch :=
  match Declaration.load world with
  | .error reason => .error reason
  | .ok loaded =>
      let outlet := loaded.declaration.settings.logOutlet
      match outlet with
      | .file path =>
          match Files.append world.files path [] with
          | .ok files => .ok ⟨loaded, outlet, { world with files := files }⟩
          | .error fault => .error (.system (.io fault))
      | _ => .ok ⟨loaded, outlet, world⟩

def filter (reading : FilterReading) (launch : Launch) : LogFilter :=
  reading ((launch.world.environment.get? filterVariable).getD "")
    launch.loaded.declaration.settings.logLevel

/-- Whether entries of a level by a part are written. -/
def writes (reading : FilterReading) (launch : Launch) (level : LogLevel) (part : LogPart) : Bool :=
  launch.loaded.declaration.settings.loggingEnabled && launch.filter reading level part

/-- The entries that are written. -/
def written (reading : FilterReading) (launch : Launch) (entries : List LogEntry) : List LogEntry :=
  entries.filter fun entry => launch.writes reading entry.level entry.part

/-- Whether the program's own part of the log has entries for debugging as well. -/
def isDebugging (reading : FilterReading) (launch : Launch) : Bool :=
  launch.writes reading .debug .program

/-- What is said of a file that could not be used. -/
def fallbackEntries (loaded : Loaded) : List LogEntry :=
  match loaded.path, loaded.fallback with
  | some path, some reason =>
      [⟨.warn, .program, "failed reading config file " ++ path ++ ": " ++ reason.message⟩]
  | _, _ => []

/-- The service before its first pass. -/
def service (launch : Launch) : DefaultService :=
  let declaration := launch.loaded.declaration
  let dialing := Dialing.ofSettings declaration.settings
  let source : PlacedSource := ⟨⟨launch.loaded.path, declaration⟩, launch.world⟩
  (Service.start declaration source (Registry.empty dialing)).noting
    (fallbackEntries launch.loaded ++ Service.proxyEntries dialing)

/-- Starts to watch; that this is not possible is noted only. -/
def watching (launch : Launch) (service : DefaultService) : DefaultService :=
  match service.watch launch.world.files with
  | .ok service => service
  | .error reason =>
      service.noting [⟨.error, .program,
        "config changes will not be picked up: " ++ reason.message⟩]

/-- The files that a run depends on, beside those it was loaded from. -/
def neededFiles (declaration : Declaration) : List String :=
  (if declaration.settings.logFile = "" then [] else [declaration.settings.logFile]) ++
    declaration.targets.entries.filterMap fun entry => entry.2.authorityFile

/-- The paths at which the loaded file may be found. -/
def sourcePaths (environment : Environment) : List String :=
  let path := (environment.get? configPathVariable).getD implicitFile
  [path, path ++ ".toml"]

/-- What is said of the declaration that a run has loaded. -/
def declarationEntry (launch : Launch) : LogEntry :=
  ⟨.debug, .program,
    "configuration loaded config=" ++ launch.loaded.declaration.outline.render false⟩

/-- The lines of the log that show the declaration. -/
def debugLines (reading : FilterReading) (launch : Launch) : List String :=
  (launch.written reading [launch.declarationEntry]).map LogEntry.line

def startedEntry : LogEntry :=
  ⟨.info, .program, "Collector started. Waiting for CTRL+C signal..."⟩

/-- The start: the first pass, the admin endpoint, the watch. -/
def begin (launch : Launch) (listen : Admin.Listen) : Option Net.SocketAddress × DefaultService :=
  let (_, service) := launch.service.loadInitial
  let (bound, service) := service.startAdmin listen
  (bound, (launch.watching service).noting [startedEntry])

def signalEntry (signal : StopSignal) : LogEntry :=
  ⟨.info, .program, signal.label ++ " detected."⟩

def exitEntry : LogEntry := ⟨.info, .program, "Exiting program."⟩

/-- The service in a later world, with the change to its file passed on to its watchers. -/
def inWorld (world : World) (service : DefaultService) : DefaultService :=
  let reconciler := service.reconciler
  let before := reconciler.source.world
  let service := service.withReconciler
    { reconciler with source := { reconciler.source with world := world } }
  match service.configPath with
  | none => service
  | some path =>
      match FileWatch.change? (Files.node? before.files path) (Files.node? world.files path) with
      | none => service
      | some kind => service.takeSteps (service.arrivals world.files kind path)

/-- The addresses that initialisations wait for. -/
def awaited (service : DefaultService) : List String :=
  service.reconciler.pending.filterMap fun
    | .connecting seen => some seen.target.address
    | _ => none

/-- Lets watchers and initialisations go on until all of them wait. -/
def goOn (roundLimit : Nat) (peer : String → Peer) (service : DefaultService) : DefaultService :=
  let service := service.watchOn roundLimit
  let reconciler := service.reconciler
  service.withReconciler (reconciler.settled ⟨reconciler.source.world.files, peer⟩)

/-- The end on a signal: everything is told to stop, and then the service is shut down. -/
def stop (signal : StopSignal) (service : DefaultService) : DefaultService :=
  ((service.noting [signalEntry signal]).cancel).beginShutdown drainTimeoutMs

/-- The end, once the shutdown has returned. -/
def finish (service : DefaultService) : DefaultService := service.noting [exitEntry]

/-- What is written about a run that cannot begin. -/
def failureText (reason : Error) : String := "Error: " ++ reason.detail

end Launch

end Telemetry
