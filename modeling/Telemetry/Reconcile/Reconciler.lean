import Telemetry.Declaration.Source
import Telemetry.Notice.Watching
import Telemetry.Reconcile.Pass
import Telemetry.Reconcile.Tracker
import Telemetry.Registry.Initialisation

/-!
The reconciler: a source of targets, a registry, and the initialisations that passes have begun and
that have not ended. Such an initialisation is counted twice: its body holds a guard of a gauge, and
the task around it a token of a tracker.
-/

namespace Telemetry

structure Reconciler (σ ρ τ : Type) where
  source : σ
  registry : ρ
  /-- Initialisations that have not ended, first one first. -/
  pending : List τ
  tracker : Tracker
  metrics : Metrics
  /-- Whether initialisations are to stop. -/
  shutdown : Bool
  log : List LogEntry

namespace Reconciler

variable {σ ρ τ : Type} [TargetSource σ] [TargetRegistry ρ τ]

def start (source : σ) (registry : ρ) : Reconciler σ ρ τ :=
  ⟨source, registry, [], .start, Metrics.zero, false, []⟩

/-- A guard of the gauge is made. -/
def takeGuard (state : Reconciler σ ρ τ) : Reconciler σ ρ τ :=
  { state with metrics := state.metrics.takeGuard }

/-- A task begins, and the tracker gives it a token. -/
def track (task : τ) (state : Reconciler σ ρ τ) : Reconciler σ ρ τ :=
  { state with pending := state.pending ++ [task], tracker := state.tracker.give }

/-- Begins an initialisation. Its guard is made before its task begins. -/
def beginInit (task : τ) (state : Reconciler σ ρ τ) : Reconciler σ ρ τ :=
  state.takeGuard.track task

def dropGuard (state : Reconciler σ ρ τ) : Reconciler σ ρ τ :=
  { state with metrics := state.metrics.dropGuard }

def dropToken (state : Reconciler σ ρ τ) : Reconciler σ ρ τ :=
  { state with tracker := state.tracker.takeBack }

/-- What an initialisation that ends gives back. -/
def endInit (state : Reconciler σ ρ τ) : InitEnd → Reconciler σ ρ τ
  -- The body drops its guard as it returns; its task is dropped after that.
  | .returned => state.dropGuard.dropToken
  -- The body goes with all that it holds, and the token of its task follows.
  | .cancelled => state.dropGuard.dropToken
  -- The body is unwound, which drops its guard too; the panic ends at its task, which is dropped.
  | .panicked => state.dropGuard.dropToken

/-- Answers what a pass asks. An initialisation counts as pending from the moment it is begun. -/
def handler : Program.Handler PassQuestion.Answer (Reconciler σ ρ τ)
  | .declared, state =>
      let (answer, source) := TargetSource.read state.source
      (answer, { state with source := source })
  | .live, state => (TargetRegistry.names state.registry, state)
  | .delete name, state =>
      let (answer, registry) := TargetRegistry.delete name state.registry
      (answer, { state with registry := registry })
  | .add target, state =>
      let (answer, registry) := TargetRegistry.add target state.registry
      (answer, { state with registry := registry })
  | .spawn name, state => ((), state.beginInit (TargetRegistry.spawn ρ name))
  | .count operation success, state =>
      ((), { state with metrics := state.metrics.record operation success })
  | .note entry, state => ((), { state with log := state.log ++ [entry] })

/-- The pass that a notice calls for, if it calls for one. -/
def passFor (notice : Notice) : Option (PassProgram (Option Report)) :=
  if notice.kind.triggersPass then some Pass.program else none

/-- How watchers have notices handled. -/
def handling : Watching.Handling PassQuestion.Answer (Option Report) (Reconciler σ ρ τ) :=
  ⟨passFor, handler⟩

/-- Handles one notice: a pass, if the notice calls for one. -/
def reconcile (notice : Notice) (state : Reconciler σ ρ τ) : Option Report × Reconciler σ ρ τ :=
  match passFor notice with
  | some pass => pass.run handler state
  | none => (none, state)

/-- The number of initialisations that are tracked. -/
def pendingInits (state : Reconciler σ ρ τ) : Nat := state.tracker.tokens

/-- Begins to wait for the initialisations. -/
def close (state : Reconciler σ ρ τ) : Reconciler σ ρ τ :=
  { state with tracker := state.tracker.close }

/-- Whether the wait for the initialisations is over. -/
def isDrained (state : Reconciler σ ρ τ) : Bool := state.tracker.isOver

end Reconciler

namespace Reconciler

variable {σ : Type}

/-- The registry and its initialisations, as they run between passes. -/
def initialising (state : Reconciler σ Registry InitTask) : Initialising :=
  ⟨state.registry, state.pending, state.metrics, state.shutdown, state.log⟩

/-- What is left when initialisations have run. -/
def withInitialising (state : Reconciler σ Registry InitTask) (after : Initialising) :
    Reconciler σ Registry InitTask :=
  { state with
    registry := after.registry
    pending := after.tasks
    metrics := after.metrics
    log := after.log }

/-- One step of an initialisation. -/
def initStep (state : Reconciler σ Registry InitTask) (step : InitStep) :
    Reconciler σ Registry InitTask :=
  let stepped := state.withInitialising (state.initialising.step step)
  match state.initialising.endOf step with
  | none => stepped
  | some how => stepped.endInit how

/-- Lets initialisations go on, no more than the given number of steps. -/
def settle (surroundings : Surroundings) :
    Nat → Reconciler σ Registry InitTask → Reconciler σ Registry InitTask
  | 0, state => state
  | steps + 1, state =>
      match state.initialising.firstStep? surroundings with
      | none => state
      | some next => settle surroundings steps (state.initStep next)

/-- Lets every initialisation go on until it ends or has to wait for good. -/
def settled (surroundings : Surroundings) (state : Reconciler σ Registry InitTask) :
    Reconciler σ Registry InitTask :=
  settle surroundings (Initialising.stepsPerTask * state.pending.length) state

end Reconciler

end Telemetry
