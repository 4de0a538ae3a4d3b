import Telemetry.Admin.Listening
import Telemetry.Admin.Routes
import Telemetry.Notice.FileWatch
import Telemetry.Print.Pipeline
import Telemetry.Reconcile.Together

/-!
The collector as a whole: a declaration, a reconciler with its watchers, and what the rest of the
program asks of them.
-/

namespace Telemetry

/-- How far a call has come that shuts a service down. -/
inductive ShutdownPhase where
  /-- It has given the signal to stop. -/
  | begun
  /-- It has taken watchers, and has yet to wait for these, first one first. -/
  | awaiting (tasks : List Nat)
  /-- It waits for the initialisations. -/
  | draining
  /-- It has waited too long for them. -/
  | expired
  | returned (inTime : Bool)
  /-- It was dropped, with watchers that it had not waited for. -/
  | dropped (tasks : List Nat)
deriving DecidableEq, Repr

structure ShutdownCall where
  /-- How long it waits for initialisations to end. -/
  timeoutMs : Nat
  phase : ShutdownPhase
deriving DecidableEq, Repr

structure Service (σ ρ τ : Type) where
  /-- The declaration that the service was started with. -/
  declaration : Declaration
  /-- The reconciler and its watchers. -/
  watched : Reconciler.Watched σ ρ τ
  /-- The watches behind the watchers, in their order. -/
  watches : List FileWatch
  /-- The watchers that nobody has begun to wait for, first one first. -/
  tasks : List Nat
  /-- What is said of watchers that have broken down. -/
  failures : List (Nat × String)
  /-- The calls that shut the service down, first one first. -/
  calls : List ShutdownCall

namespace Service

variable {σ ρ τ : Type} [TargetSource σ] [TargetRegistry ρ τ]

/-- The entry about a setting that has no effect. -/
def proxyEntries (dialing : Dialing) : List LogEntry :=
  if dialing.proxyFromEnvironment then
    [⟨.warn, .registry, "proxy_from_env requested: gRPC channels always connect directly"⟩]
  else []

def start (declaration : Declaration) (source : σ) (registry : ρ) : Service σ ρ τ :=
  ⟨declaration, ⟨Reconciler.start source registry, none, [], false, []⟩, [], [], [], []⟩

def reconciler (service : Service σ ρ τ) : Reconciler σ ρ τ := service.watched.state

def withReconciler (service : Service σ ρ τ) (reconciler : Reconciler σ ρ τ) : Service σ ρ τ :=
  { service with watched := { service.watched with state := reconciler } }

/-- The log so far. -/
def log (service : Service σ ρ τ) : List LogEntry := service.reconciler.log

def noting (service : Service σ ρ τ) (entries : List LogEntry) : Service σ ρ τ :=
  service.withReconciler { service.reconciler with log := service.log ++ entries }

/-- The names of the live targets, ascending. -/
def names (service : Service σ ρ τ) : List String :=
  sortedNames (TargetRegistry.names service.reconciler.registry)

def printSettings (service : Service σ ρ τ) : PrintSettings :=
  PrintSettings.ofSettings service.declaration.settings

/-- The file whose changes are watched, if there is one. -/
def configPath (service : Service σ ρ τ) : Option String :=
  TargetSource.watchPath service.reconciler.source

/-- Handles one notice. -/
def reconcile (service : Service σ ρ τ) (notice : Notice) : Option Report × Service σ ρ τ :=
  let (report, reconciler) := service.reconciler.reconcile notice
  (report, service.withReconciler reconciler)

def loadedEntry : Option Report → LogEntry
  | some report => ⟨.info, .service, "loaded " ++ toString report.added.length ++ " target(s)"⟩
  | none => ⟨.error, .service, "initial target load failed"⟩

/-- The first pass, as if the source had just come to be. -/
def loadInitial (service : Service σ ρ τ) : Option Report × Service σ ρ τ :=
  let (report, service) := service.reconcile ⟨.create, service.configPath.getD ""⟩
  (report, service.noting [loadedEntry report])

/-- Starts the admin endpoint, if one is configured. That it cannot be started is noted only. -/
def startAdmin (listen : Admin.Listen) (service : Service σ ρ τ) :
    Option Net.SocketAddress × Service σ ρ τ :=
  let api := service.declaration.settings.api
  if api = "" then (none, service)
  else
    match Net.SocketAddress.parse? api with
    | none =>
        (none, service.noting [⟨.error, .service,
          "invalid api address " ++ Text.quoted api ++ ": invalid socket address syntax"⟩])
    | some address =>
        match Admin.start listen address with
        | .ok bound =>
            (some bound,
              service.noting [⟨.info, .admin, "admin endpoint listening on " ++ bound.text⟩])
        | .error reason =>
            (none, service.noting [⟨.error, .service,
              "failed to start admin endpoint: " ++ reason.message⟩])

/-- A watcher begins. -/
def spawnWatcher (service : Service σ ρ τ) : Service σ ρ τ :=
  { service with
    tasks := service.tasks ++ [service.watched.watchers.length]
    watched := { service.watched with watchers := service.watched.watchers ++ [Watcher.start] } }

/-- Starts to watch the file of the source, if it has one. -/
def watch (files : Files.Tree) (service : Service σ ρ τ) : Except Error (Service σ ρ τ) :=
  match service.configPath with
  | none => .ok service
  | some path =>
      match FileWatch.start files path with
      | .error reason => .error reason
      | .ok started =>
          .ok (({ service with watches := service.watches ++ [started] }.noting
            [⟨.info, .watcher, "watching config file " ++ path⟩]).spawnWatcher)

/-- The steps by which a change to the file of a path reaches the watchers that it concerns. -/
def arrivals (service : Service σ ρ τ) (files : Files.Tree) (kind : FileEventKind) (path : String) :
    List (WatchStep (Reconciler σ ρ τ)) :=
  (service.watches.zipIdx).filterMap fun (watch, index) =>
    (watch.noticeOf files kind path).map (WatchStep.send index)

/-- Whether everything in the background is to stop. -/
def isStopping (service : Service σ ρ τ) : Bool := service.watched.shutdown

def takeSteps (service : Service σ ρ τ) (schedule : List (WatchStep (Reconciler σ ρ τ))) :
    Service σ ρ τ :=
  { service with watched := service.watched.run Reconciler.handling schedule }

/-- Lets the watchers go on until all of them rest, in no more than the given number of rounds. -/
def watchOn (roundLimit : Nat) (service : Service σ ρ τ) : Service σ ρ τ :=
  { service with watched := service.watched.rounds Reconciler.handling roundLimit }

/-- A watcher that has not ended breaks down. -/
def breakDown (index : Nat) (detail : String) (service : Service σ ρ τ) : Service σ ρ τ :=
  if (service.watched.watchers[index]?).any (fun watcher => !watcher.ended) then
    { service.takeSteps [.abandon index] with failures := service.failures ++ [(index, detail)] }
  else service

/-- Tells everything in the background to stop. -/
def cancel (service : Service σ ρ τ) : Service σ ρ τ :=
  let reconciler := { service.reconciler with shutdown := true }
  { service with
    watched := { service.watched with state := reconciler, shutdown := true } }

/-- The answer of the admin endpoint to a request. -/
def respond (service : Service σ ρ τ) (method target : String) : Admin.Response :=
  Admin.respond (TargetRegistry.names service.reconciler.registry) service.reconciler.metrics method
    target

/-- Prints one message. Only the number of declared targets and the count of failures are shared
with the rest of the service. -/
def print (formatter : Formatter) (faults : SinkFaults) (call : PrintCall)
    (service : Service σ ρ τ) : Print.Result × Sinks × Service σ ρ τ :=
  let reconciler := service.reconciler
  let printing : Printing :=
    ⟨Sinks.empty, TargetSource.declaredCount reconciler.source, 0, reconciler.metrics.printFailures⟩
  let (result, after) := printing.print formatter faults service.printSettings call
  let metrics := { reconciler.metrics with printFailures := after.failures }
  (result, after.sinks, service.withReconciler { reconciler with metrics := metrics })

end Service

end Telemetry
