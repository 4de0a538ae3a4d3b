import Telemetry.Service.Shutdown

/-!
Calls that shut a service down, step by step: what each step may do, and what it leaves alone.
-/

namespace Telemetry

/-- Whether a call has taken watchers to wait for. -/
def ShutdownPhase.hasTaken : ShutdownPhase → Prop
  | .begun => False
  | .dropped _ => False
  | _ => True

/-- Whether a call has waited for all watchers that it has taken. -/
def ShutdownPhase.hasWaited : ShutdownPhase → Prop
  | .draining => True
  | .expired => True
  | .returned _ => True
  | _ => False

def ShutdownPhase.hasReturned : ShutdownPhase → Bool
  | .returned _ => true
  | _ => false

namespace ShutdownPhase

variable {phase : ShutdownPhase}

theorem hasReturned_iff : phase.hasReturned = true ↔ ∃ inTime, phase = .returned inTime := by
  cases phase <;> simp [hasReturned]

theorem left_of_hasWaited (waited : phase.hasWaited) : phase.left = [] := by
  cases phase <;> first | rfl | cases waited

theorem hasTaken_of_hasWaited (waited : phase.hasWaited) : phase.hasTaken := by
  cases phase <;> trivial

theorem hasWaited_of_hasReturned (returned : phase.hasReturned = true) : phase.hasWaited := by
  obtain ⟨inTime, rfl⟩ := hasReturned_iff.mp returned
  trivial

theorem mem_left_of_drop {task : Nat} (phase : ShutdownPhase) (member : task ∈ phase.drop.left) :
    task ∈ phase.left := by
  cases phase <;> exact member

theorem mem_left_drop {task : Nat} (phase : ShutdownPhase) (member : task ∈ phase.left) :
    task ∈ phase.drop.left := by
  cases phase <;> exact member

theorem hasWaited_of_drop (phase : ShutdownPhase) (waited : phase.drop.hasWaited) :
    phase.hasWaited := by
  cases phase <;> trivial

theorem hasTaken_of_drop (phase : ShutdownPhase) (taken : phase.drop.hasTaken) :
    phase.hasTaken := by
  cases phase <;> trivial

theorem hasReturned_drop (phase : ShutdownPhase) (returned : phase.hasReturned = true) :
    phase.drop.hasReturned = true := by
  cases phase <;> first | rfl | cases returned

end ShutdownPhase

namespace Service

variable {σ ρ τ : Type} {service after : Service σ ρ τ} {index other : Nat} {late : Bool}
  {phase : ShutdownPhase}

def phase? (service : Service σ ρ τ) (index : Nat) : Option ShutdownPhase :=
  (service.calls[index]?).map ShutdownCall.phase

theorem lt_of_phase? (stands : service.phase? index = some phase) :
    index < service.calls.length := by
  obtain ⟨call, standing, _⟩ := Option.map_eq_some_iff.mp stands
  exact (List.getElem?_eq_some_iff.mp standing).1

theorem phase?_reach (phase : ShutdownPhase) :
    (service.reach index phase).phase? other =
      if index = other then (service.phase? other).map fun _ => phase
      else service.phase? other := by
  unfold reach phase?
  rw [List.getElem?_modify]
  by_cases same : index = other <;> cases service.calls[other]? <;> simp [same]

theorem reach_self (stands : service.phase? index = some phase) :
    service.reach index phase = service := by
  obtain ⟨call, standing, reached⟩ := Option.map_eq_some_iff.mp stands
  have same : service.calls.modify index ({ · with phase := phase }) = service.calls := by
    refine List.ext_getElem? fun other => ?_
    rw [List.getElem?_modify]
    by_cases own : index = other
    · subst own
      simp [standing, ← reached]
    · simp [own]
  rw [reach, same]

theorem calls_callStep (late : Bool) (service : Service σ ρ τ) (call : ShutdownCall) :
    (service.callStep late call).2.calls = service.calls := by
  unfold callStep
  split <;> first | rfl | (split <;> first | rfl | (split <;> rfl))

/-- The phase that a call comes to in one step. -/
theorem phase?_advanceCall {call : ShutdownCall} (standing : service.calls[index]? = some call) :
    (service.advanceCall late index).phase? index = some (service.callStep late call).1 := by
  have same : (service.callStep late call).2.phase? index = some call.phase := by
    rw [phase?, calls_callStep, standing]
    rfl
  simp only [advanceCall, standing, phase?_reach, same, if_true, Option.map_some]

/-- What a call can do in one step. -/
inductive CallAdvanced (service : Service σ ρ τ) (index : Nat) : Service σ ρ τ → Prop where
  | rest (begun : service.phase? index ≠ some .begun)
      (waits : ∀ tasks, service.phase? index = some (.awaiting tasks) →
        ∃ task ∈ tasks, service.hasEnded task = false)
      (pending : service.phase? index = some .draining → service.reconciler.isDrained = false)
      (inTime : service.phase? index ≠ some .expired) : CallAdvanced service index service
  | take (stands : service.phase? index = some .begun) :
      CallAdvanced service index
        (reach index (.awaiting service.tasks) { service with tasks := [] })
  | next {task : Nat} {tasks : List Nat}
      (stands : service.phase? index = some (.awaiting (task :: tasks)))
      (ended : service.hasEnded task = true) :
      CallAdvanced service index
        ((service.noting (service.failureEntries task)).reach index (.awaiting tasks))
  | close (stands : service.phase? index = some (.awaiting [])) :
      CallAdvanced service index
        ((service.withReconciler service.reconciler.close).reach index .draining)
  | finish (stands : service.phase? index = some .draining)
      (drained : service.reconciler.isDrained = true) :
      CallAdvanced service index (service.reach index (.returned true))
  | expire (stands : service.phase? index = some .draining)
      (pending : service.reconciler.isDrained = false) :
      CallAdvanced service index (service.reach index .expired)
  | giveUp {entries : List LogEntry} (stands : service.phase? index = some .expired) :
      CallAdvanced service index ((service.noting entries).reach index (.returned false))

theorem callAdvanced (service : Service σ ρ τ) (index : Nat) (late : Bool) :
    service.CallAdvanced index (service.advanceCall late index) := by
  unfold advanceCall
  cases standing : service.calls[index]? with
  | none =>
      have nobody : service.phase? index = none := by
        rw [phase?, standing]
        rfl
      exact .rest (by simp [nobody]) (by simp [nobody]) (by simp [nobody]) (by simp [nobody])
  | some call =>
      have stands : service.phase? index = some call.phase := by
        rw [phase?, standing]
        rfl
      obtain ⟨timeoutMs, phase⟩ := call
      cases phase with
      | begun => exact .take stands
      | awaiting tasks =>
          cases tasks with
          | nil => exact .close stands
          | cons task tasks =>
              simp only [callStep]
              split
              · rename_i ended
                exact .next stands ended
              · rename_i working
                rw [reach_self stands]
                refine .rest (by simp [stands]) (fun waiting same => ?_) (by simp [stands])
                  (by simp [stands])
                cases stands.symm.trans same
                exact ⟨task, List.mem_cons_self, Bool.eq_false_iff.mpr working⟩
      | draining =>
          simp only [callStep]
          cases drained : service.reconciler.isDrained with
          | true => exact .finish stands drained
          | false =>
              cases late with
              | true => exact .expire stands drained
              | false =>
                  simp only [Bool.false_eq_true, if_false, reach_self stands]
                  exact .rest (by simp [stands]) (by simp [stands]) (fun _ => drained)
                    (by simp [stands])
      | expired => exact .giveUp stands
      | returned inTime =>
          simp only [callStep, reach_self stands]
          exact .rest (by simp [stands]) (by simp [stands]) (by simp [stands]) (by simp [stands])
      | dropped tasks =>
          simp only [callStep, reach_self stands]
          exact .rest (by simp [stands]) (by simp [stands]) (by simp [stands]) (by simp [stands])

theorem phase?_advance_other (service : Service σ ρ τ) (late : Bool) (different : index ≠ other) :
    (service.advanceCall late index).phase? other = service.phase? other := by
  have advanced := service.callAdvanced index late
  generalize service.advanceCall late index = after at advanced
  cases advanced with
  | rest => rfl
  | _ => exact (phase?_reach _).trans (if_neg different)

/-- What calls leave alone: the watchers, the registry, and initialisations with what is counted
of them. -/
structure Spares (before after : Service σ ρ τ) : Prop where
  watchers : after.watched.watchers = before.watched.watchers
  holder : after.watched.holder = before.watched.holder
  finished : after.watched.finished = before.watched.finished
  shutdown : after.watched.shutdown = before.watched.shutdown
  failures : after.failures = before.failures
  registry : after.reconciler.registry = before.reconciler.registry
  pending : after.reconciler.pending = before.reconciler.pending
  metrics : after.reconciler.metrics = before.reconciler.metrics
  tokens : after.reconciler.pendingInits = before.reconciler.pendingInits
  closed : before.reconciler.tracker.closed = true → after.reconciler.tracker.closed = true

theorem CallAdvanced.spares (advanced : service.CallAdvanced index after) :
    service.Spares after := by
  cases advanced with
  | close => exact ⟨rfl, rfl, rfl, rfl, rfl, rfl, rfl, rfl, rfl, fun _ => rfl⟩
  | _ => exact ⟨rfl, rfl, rfl, rfl, rfl, rfl, rfl, rfl, rfl, id⟩

theorem spares_dropCall (index : Nat) (service : Service σ ρ τ) :
    service.Spares (service.dropCall index) := by
  unfold dropCall
  split <;> exact ⟨rfl, rfl, rfl, rfl, rfl, rfl, rfl, rfl, rfl, id⟩

end Service

end Telemetry
