import Telemetry.Log
import Telemetry.Metrics
import Telemetry.Registry.Basic

/-!
Initialisation of registered targets. An initialisation looks its target up when it begins, marks it
as connecting, waits for the attempt to end and records the outcome; in between, targets may be
deleted and added again, and what is recorded then finds no registration of its number any more.
-/

namespace Telemetry

/-- A registration as an initialisation has seen it. -/
structure Registration where
  name : String
  target : Target
  generation : Nat
deriving DecidableEq, Repr

/-- How an attempt to connect ended. -/
inductive Ending where
  | connected (channel : Channel)
  | failed (reason : Error)
  /-- The collector shut down, or the target was deleted. -/
  | cancelled
deriving DecidableEq, Repr

def Ending.ofAttempt : Except Error Channel → Ending
  | .ok channel => .connected channel
  | .error reason => .failed reason

/-- An initialisation on its way. -/
inductive InitTask where
  | spawned (name : String)
  | observed (seen : Registration)
  | connecting (seen : Registration)
  | concluded (seen : Registration) (ending : Ending)
deriving DecidableEq, Repr

namespace Registry

/-- The registration under a name now. -/
def observe (registry : Registry) (name : String) : Option Registration :=
  (registry.entries.get? name).map fun entry => ⟨name, entry.target, entry.generation⟩

def isLive (registry : Registry) (seen : Registration) : Bool :=
  registry.isCurrent seen.name seen.generation

def markConnecting (registry : Registry) (seen : Registration) : Registry :=
  registry.update seen.name seen.generation fun entry => { entry with state := .connecting }

/-- The change that an ending makes to the entry it is about. -/
def applyEnding (ending : Ending) (entry : Entry) : Entry :=
  match ending with
  | .connected channel => { entry with state := .connected, channel := some channel }
  | .failed reason => { entry with state := .failed reason.message }
  | .cancelled => { entry with state := .cancelled }

/-- Records an ending with the registration it is about, if that is still there. -/
def record (registry : Registry) (seen : Registration) (ending : Ending) : Registry :=
  registry.update seen.name seen.generation (applyEnding ending)

/-- Counts an ending. A connection counts when it could be recorded, a failure in any case, and a
cancellation never. -/
def countEnding (registry : Registry) (seen : Registration) (ending : Ending) (metrics : Metrics) :
    Metrics :=
  match ending with
  | .connected _ => if registry.isLive seen then metrics.record .init true else metrics
  | .failed _ => metrics.record .init false
  | .cancelled => metrics

/-- What is logged of an ending. -/
def endingEntries (registry : Registry) (seen : Registration) (ending : Ending) : List LogEntry :=
  match ending with
  | .connected _ =>
      if registry.isLive seen then
        [⟨.info, .registry,
          "target initialized target_name=" ++ seen.name ++ " address=" ++ seen.target.address⟩]
      else []
  | .failed reason =>
      [⟨.warn, .registry,
        "failed to initialize target: " ++ reason.message ++ " target_name=" ++ seen.name⟩]
  | .cancelled => []

end Registry

/-- A registry with initialisations on their way. -/
structure Initialising where
  registry : Registry
  /-- Those that have not ended, first one first. -/
  tasks : List InitTask
  metrics : Metrics
  /-- Whether the collector shuts down. -/
  shutdown : Bool
  log : List LogEntry

/-- One step of an initialisation, by its place among those that have not ended. -/
inductive InitStep where
  /-- It goes on by itself, as far as it does not wait. -/
  | proceed (place : Nat)
  /-- The attempt that it waits for ends. -/
  | conclude (place : Nat) (ending : Ending)
  /-- It breaks down. -/
  | abandon (place : Nat)
deriving DecidableEq, Repr

/-- How an initialisation ends. -/
inductive InitEnd where
  | returned
  /-- It gives up when it is told to, or is dropped where it stands. -/
  | cancelled
  | panicked
deriving DecidableEq, Repr

namespace Initialising

/-- Whether an attempt may end that way now. It is cancelled only by a shutdown or a deletion. -/
def allows (state : Initialising) (seen : Registration) : Ending → Bool
  | .cancelled => state.shutdown || !state.registry.isLive seen
  | _ => true

def replaced (state : Initialising) (place : Nat) (task : InitTask) : Initialising :=
  { state with tasks := state.tasks.set place task }

def dropped (state : Initialising) (place : Nat) : Initialising :=
  { state with tasks := state.tasks.eraseIdx place }

/-- An initialisation goes on by itself. One of a name that is not registered ends at once. -/
def proceed (state : Initialising) (place : Nat) : Initialising :=
  match state.tasks[place]? with
  | some (.spawned name) =>
      match state.registry.observe name with
      | some seen => state.replaced place (.observed seen)
      | none =>
          { state.dropped place with
            log := state.log ++
              [⟨.warn, .registry, "init requested for unknown target target_name=" ++ name⟩] }
  | some (.observed seen) =>
      { state.replaced place (.connecting seen) with
        registry := state.registry.markConnecting seen }
  | some (.concluded seen ending) =>
      { state.dropped place with
        registry := state.registry.record seen ending
        metrics := state.registry.countEnding seen ending state.metrics
        log := state.log ++ state.registry.endingEntries seen ending }
  | _ => state

def conclude (state : Initialising) (place : Nat) (ending : Ending) : Initialising :=
  match state.tasks[place]? with
  | some (.connecting seen) =>
      if state.allows seen ending then state.replaced place (.concluded seen ending) else state
  | _ => state

def step (state : Initialising) : InitStep → Initialising
  | .proceed place => state.proceed place
  | .conclude place ending => state.conclude place ending
  | .abandon place => state.dropped place

/-- How the initialisation of a step ends, if it ends by the step. -/
def endOf (state : Initialising) : InitStep → Option InitEnd
  | .proceed place =>
      match state.tasks[place]? with
      | some (.spawned name) =>
          if (state.registry.observe name).isNone then some .returned else none
      | some (.concluded _ .cancelled) => some .cancelled
      | some (.concluded _ _) => some .returned
      | _ => none
  | .conclude _ _ => none
  | .abandon place => if place < state.tasks.length then some .panicked else none

/-- How the attempt that a task waits for ends in given surroundings, if it does: what need not
wait wins over a shutdown, what waits for a file or a peer does not. -/
def endingIn (surroundings : Surroundings) (state : Initialising) (seen : Registration) :
    Option Ending :=
  let gone := state.shutdown || !state.registry.isLive seen
  match Link.connect surroundings state.registry.dialing seen.target with
  | none => if gone then some .cancelled else none
  | some outcome =>
      if gone && Link.readsFile seen.target then some .cancelled
      else some (Ending.ofAttempt outcome)

/-- The next step of the task in a place, if it does not have to wait on. -/
def nextStep? (surroundings : Surroundings) (state : Initialising) (place : Nat) :
    Option InitStep :=
  match state.tasks[place]? with
  | none => none
  | some (.connecting seen) => (state.endingIn surroundings seen).map (InitStep.conclude place)
  | some _ => some (.proceed place)

/-- The next step of the first task that does not have to wait on. -/
def firstStep? (surroundings : Surroundings) (state : Initialising) : Option InitStep :=
  (List.range state.tasks.length).findSome? (nextStep? surroundings state)

/-- Takes steps of the first tasks that can go on, no more than the given number. -/
def settle (surroundings : Surroundings) : Nat → Initialising → Initialising
  | 0, state => state
  | steps + 1, state =>
      match state.firstStep? surroundings with
      | none => state
      | some next => settle surroundings steps (state.step next)

/-- As many steps as each task may take. -/
def stepsPerTask : Nat := 4

/-- Lets every task go on until it ends or has to wait for good. -/
def settled (surroundings : Surroundings) (state : Initialising) : Initialising :=
  settle surroundings (stepsPerTask * state.tasks.length) state

end Initialising

instance : TargetRegistry Registry InitTask where
  names registry := registry.names
  add target registry := registry.afterwards (registry.add target)
  delete name registry := registry.afterwards (registry.delete name)
  spawn := .spawned

end Telemetry
