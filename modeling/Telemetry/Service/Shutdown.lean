import Telemetry.Service.Basic

/-!
Shutting a service down. A call gives the signal to stop, takes the watchers that no call before it
has taken, waits for one after the other to end, and then for the initialisations, for as long as it
was told at most. Calls may overlap, and one may be dropped before it returns; the watchers that a
call has taken are not waited for by any other.
-/

namespace Telemetry

/-- How long the program's own shutdown waits for initialisations to end. -/
def drainTimeoutMs : Nat := 5000

/-- A duration as the log shows it. -/
def durationText (milliseconds : Nat) : String :=
  if milliseconds = 0 then "0ns"
  else if milliseconds < 1000 then toString milliseconds ++ "ms"
  else
    let digits := toString (1000 + milliseconds % 1000)
    let fraction := (((digits.toList.drop 1).reverse.dropWhile (· == '0')).reverse)
    toString (milliseconds / 1000) ++
      (if fraction.isEmpty then "" else "." ++ String.ofList fraction) ++ "s"

namespace ShutdownPhase

/-- The watchers that have been taken and not been waited for. -/
def left : ShutdownPhase → List Nat
  | .awaiting tasks => tasks
  | .dropped tasks => tasks
  | _ => []

/-- Where a call is left that is dropped. -/
def drop : ShutdownPhase → ShutdownPhase
  | .returned inTime => .returned inTime
  | phase => .dropped phase.left

end ShutdownPhase

namespace Service

variable {σ ρ τ : Type}

/-- A call begins, with all that it does before it waits for anything. -/
def beginShutdown (timeoutMs : Nat) (service : Service σ ρ τ) : Service σ ρ τ :=
  let service := (service.noting [⟨.info, .service, "shutting down collector"⟩]).cancel
  { service with calls := service.calls ++ [⟨timeoutMs, .begun⟩] }

def hasEnded (service : Service σ ρ τ) (task : Nat) : Bool :=
  (service.watched.watchers[task]?).all Watcher.ended

/-- What is noted of a watcher that has been waited for. -/
def failureEntries (service : Service σ ρ τ) (task : Nat) : List LogEntry :=
  match service.failures.lookup task with
  | some detail => [⟨.error, .service, "background task failed: " ++ detail⟩]
  | none => []

def lateEntry (timeoutMs pending : Nat) : LogEntry :=
  ⟨.warn, .service, "target initializations still running after " ++ durationText timeoutMs ++
    " pending=" ++ toString pending⟩

/-- How far a call gets in one step, and what the step does. Whether it has waited long enough for
initialisations is for the clock to say; that they are over comes first. -/
def callStep (late : Bool) (service : Service σ ρ τ) (call : ShutdownCall) :
    ShutdownPhase × Service σ ρ τ :=
  match call.phase with
  | .begun => (.awaiting service.tasks, { service with tasks := [] })
  | .awaiting [] => (.draining, service.withReconciler service.reconciler.close)
  | .awaiting (task :: tasks) =>
      if service.hasEnded task then
        (.awaiting tasks, service.noting (service.failureEntries task))
      else (.awaiting (task :: tasks), service)
  | .draining =>
      if service.reconciler.isDrained then (.returned true, service)
      else if late then (.expired, service)
      else (.draining, service)
  | .expired =>
      (.returned false,
        service.noting [lateEntry call.timeoutMs service.reconciler.pendingInits])
  | .returned inTime => (.returned inTime, service)
  | .dropped tasks => (.dropped tasks, service)

/-- A call comes to a phase. -/
def reach (index : Nat) (phase : ShutdownPhase) (service : Service σ ρ τ) : Service σ ρ τ :=
  { service with calls := service.calls.modify index ({ · with phase := phase }) }

/-- A call goes one step on. -/
def advanceCall (late : Bool) (index : Nat) (service : Service σ ρ τ) : Service σ ρ τ :=
  match service.calls[index]? with
  | none => service
  | some call =>
      let (phase, after) := service.callStep late call
      after.reach index phase

/-- A call is dropped. -/
def dropCall (index : Nat) (service : Service σ ρ τ) : Service σ ρ τ :=
  match service.calls[index]? with
  | none => service
  | some call => service.reach index call.phase.drop

/-- Lets a call go on, no more than the given number of steps. -/
def advanceCalls (late : Bool) (index : Nat) (service : Service σ ρ τ) : Nat → Service σ ρ τ
  | 0 => service
  | steps + 1 => advanceCalls late index (service.advanceCall late index) steps

/-- Lets a call go on for as long as it does not have to wait. -/
def continueCall (late : Bool) (index : Nat) (service : Service σ ρ τ) : Service σ ρ τ :=
  service.advanceCalls late index (service.watched.watchers.length + 4)

/-- What a call has returned, if it has. -/
def outcome? (service : Service σ ρ τ) (index : Nat) : Option Bool :=
  match service.calls[index]? with
  | some ⟨_, .returned inTime⟩ => some inTime
  | _ => none

end Service

end Telemetry
