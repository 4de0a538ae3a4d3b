import Telemetry.Proofs.Service.Waiting

/-!
A collector in which all is over: no watcher will take anything, no initialisation is pending, and
nothing that comes in its turn changes that. It is so once a call that has come in its turn has
returned that nothing is pending.
-/

namespace Telemetry.Reconciler.Closing

variable {σ ρ τ : Type} [TargetSource σ] [TargetRegistry ρ τ] {closing : Closing σ ρ τ}
  {index first : Nat}

/-- What holds at any time. -/
structure Sound (closing : Closing σ ρ τ) : Prop where
  written : closing.Written
  covered : closing.Covered
  accounted : closing.state.Accounted

theorem accounted_advance {watched : Watched σ ρ τ} (accounted : watched.state.Accounted)
    (index : Nat) : (watched.advance handling index).state.Accounted := by
  obtain ⟨after, advanced, same⟩ := Journal.exists_advanced watched index
  rw [← same]
  cases advanced with
  | read held => exact accounted.handler .declared
  | ask settled held => exact accounted.handler _
  | _ => exact accounted

namespace Sound

theorem accounted_step (sound : closing.Sound) (step : ClosingStep σ ρ τ) :
    (closing.step step).state.Accounted := by
  have accounted := sound.accounted
  have alike {state : Reconciler σ ρ τ} (metrics : state.metrics = closing.state.metrics)
      (tokens : state.pendingInits = closing.state.pendingInits)
      (pending : state.pending = closing.state.pending) : state.Accounted := by
    refine ⟨?_, ?_⟩
    · rw [metrics, pending]
      exact accounted.guards
    · rw [tokens, pending]
      exact accounted.tokens
  cases step with
  | watcher index => exact accounted_advance accounted index
  | send index notice =>
      rw [state_send]
      exact accounted
  | close index =>
      rw [state_close]
      exact accounted
  | breakDown index detail =>
      rw [state_breakDown]
      exact accounted
  | pass notice =>
      simp only [Closing.step, state, watched, serve]
      split
      · change (closing.state.reconcile notice).2.Accounted
        unfold reconcile
        split
        · exact accounted.run _
        · exact accounted
      · exact accounted
  | init act => exact act.accounted_apply accounted
  | goOn index late =>
      have spares := (closing.service.callAdvanced index late).spares
      exact alike spares.metrics spares.tokens spares.pending
  | drop index =>
      have spares := closing.service.spares_dropCall index
      exact alike spares.metrics spares.tokens spares.pending
  | _ => exact ⟨accounted.guards, accounted.tokens⟩

theorem step (sound : closing.Sound) (step : ClosingStep σ ρ τ) : (closing.step step).Sound :=
  ⟨sound.written.step step, sound.covered.step step, sound.accounted_step step⟩

theorem run (sound : closing.Sound) (steps : List (ClosingStep σ ρ τ)) :
    (closing.run steps).Sound := by
  induction steps generalizing closing with
  | nil => exact sound
  | cons first rest ih => exact ih (sound.step first)

end Sound

/-- No watcher has anything in hand or will take anything, no initialisation is pending, and no call
from a certain one on has returned or will return anything else. -/
structure Quiescent (first : Nat) (closing : Closing σ ρ τ) : Prop where
  told : closing.watched.shutdown = true
  idle : ∀ (index : Nat) (watcher : Watcher), closing.watched.watchers[index]? = some watcher →
    watcher.taken = none
  drained : closing.state.pending = []
  tokens : closing.state.pendingInits = 0
  answers : ∀ index, first ≤ index → closing.service.phase? index ≠ some .expired ∧
    closing.service.phase? index ≠ some (.returned false)

namespace Quiescent

/-- Nothing changes the registry any more, and nothing comes to be pending. -/
theorem state_step (quiet : closing.Quiescent first) (sound : closing.Sound)
    {step : ClosingStep σ ρ τ} (allowed : closing.allows step = true) :
    let after := closing.step step
    after.state.registry = closing.state.registry ∧ after.state.pending = closing.state.pending ∧
      after.state.pendingInits = closing.state.pendingInits := by
  have alike {state : Reconciler σ ρ τ} (same : state = closing.state) :
      state.registry = closing.state.registry ∧ state.pending = closing.state.pending ∧
        state.pendingInits = closing.state.pendingInits := by
    rw [same]
    exact ⟨rfl, rfl, rfl⟩
  cases step with
  | watcher index =>
      have notHeld (program : PassProgram (Option Report)) :
          closing.watched.holder ≠ some (index, program) := by
        intro held
        obtain ⟨watcher, standing, busy⟩ := sound.written.attended.held index program held
        rw [quiet.idle index watcher standing] at busy
        cases busy
      exact alike (Attended.advance_of_not_held closing.watched notHeld).1
  | send index notice => exact alike (state_send index notice)
  | close index => exact alike (state_close index)
  | breakDown index detail => exact alike (state_breakDown index detail)
  | pass notice => cases allowed
  | init act =>
      have nowhere : ¬ act.place < closing.state.pending.length := by
        rw [quiet.drained]
        exact Nat.not_lt_zero _
      exact alike (act.apply_of_outside nowhere)
  | goOn index late =>
      have spares := (closing.service.callAdvanced index late).spares
      exact ⟨spares.registry, spares.pending, spares.tokens⟩
  | drop index => cases allowed
  | _ => exact ⟨rfl, rfl, rfl⟩

theorem idle_step (quiet : closing.Quiescent first) (step : ClosingStep σ ρ τ) {watcher : Watcher}
    (standing : (closing.step step).watched.watchers[index]? = some watcher) :
    watcher.taken = none := by
  by_cases spawns : step = .spawn
  · subst spawns
    rcases of_getElem?_append_singleton standing with before | ⟨_, rfl⟩
    · exact quiet.idle index watcher before
    · rfl
  · obtain ⟨earlier, before, kept⟩ := (closing.stays_step step spawns).stood standing
    exact (kept quiet.told).2 (quiet.idle index earlier before)

omit [TargetSource σ] [TargetRegistry ρ τ] in
/-- The wait of a call is over as soon as it begins. -/
theorem isDrained (quiet : closing.Quiescent first) (covered : closing.Covered)
    (stands : closing.service.phase? index = some .draining) :
    closing.service.reconciler.isDrained = true := by
  have closed : closing.service.reconciler.tracker.closed = true := covered.closed index stands
  have tokens : closing.service.reconciler.tracker.tokens = 0 := quiet.tokens
  rw [Reconciler.isDrained, Tracker.isOver, closed, tokens]
  rfl

theorem answers_goOn (quiet : closing.Quiescent first) (covered : closing.Covered) (index : Nat)
    (late : Bool) {other : Nat} (further : first ≤ other) :
    let after := closing.step (.goOn index late)
    after.service.phase? other ≠ some .expired ∧
      after.service.phase? other ≠ some (.returned false) := by
  have answers := quiet.answers other further
  have advanced := closing.service.callAdvanced index late
  change (closing.service.advanceCall late index).phase? other ≠ _ ∧
    (closing.service.advanceCall late index).phase? other ≠ _
  generalize closing.service.advanceCall late index = service at advanced
  by_cases own : index = other
  · subst own
    cases advanced with
    | rest => exact answers
    | expire stands pending =>
        rw [quiet.isDrained covered stands] at pending
        cases pending
    | giveUp stands => exact absurd stands answers.1
    | _ =>
        rw [Service.phase?_reach, if_pos rfl]
        constructor <;> simp
  · cases advanced with
    | rest => exact answers
    | _ =>
        rw [Service.phase?_reach, if_neg own]
        exact answers

theorem answers_step (quiet : closing.Quiescent first) (covered : closing.Covered)
    {step : ClosingStep σ ρ τ} (allowed : closing.allows step = true) {other : Nat}
    (further : first ≤ other) :
    let after := closing.step step
    after.service.phase? other ≠ some .expired ∧
      after.service.phase? other ≠ some (.returned false) := by
  cases step with
  | shutdown timeoutMs =>
      have answers := quiet.answers other further
      refine ⟨fun stands => ?_, fun stands => ?_⟩
      · rcases phase?_begin timeoutMs stands with before | ⟨_, same⟩
        · exact answers.1 before
        · cases same
      · rcases phase?_begin timeoutMs stands with before | ⟨_, same⟩
        · exact answers.2 before
        · cases same
  | goOn index late => exact quiet.answers_goOn covered index late further
  | drop index => cases allowed
  | spawn => exact quiet.answers other further
  | _ =>
      intro after
      rw [(quiet_step closing rfl).phase?]
      exact quiet.answers other further

theorem step (quiet : closing.Quiescent first) (sound : closing.Sound) {step : ClosingStep σ ρ τ}
    (allowed : closing.allows step = true) : (closing.step step).Quiescent first where
  told := (closing.lasts_step step).shutdown quiet.told
  idle := fun _ _ standing => quiet.idle_step step standing
  drained := (quiet.state_step sound allowed).2.1.trans quiet.drained
  tokens := (quiet.state_step sound allowed).2.2.trans quiet.tokens
  answers := fun _ further => quiet.answers_step sound.covered allowed further

end Quiescent

theorem orderly_of_run (steps : List (ClosingStep σ ρ τ))
    (orderly : (closing.run steps).orderly = true) : closing.orderly = true := by
  induction steps generalizing closing with
  | nil => exact orderly
  | cons first rest ih => exact (orderly_of_step (ih orderly)).1

theorem Quiescent.run (quiet : closing.Quiescent first) (sound : closing.Sound)
    {steps : List (ClosingStep σ ρ τ)} (orderly : (closing.run steps).orderly = true) :
    (closing.run steps).Quiescent first ∧
      (closing.run steps).state.registry = closing.state.registry := by
  induction steps generalizing closing with
  | nil => exact ⟨quiet, rfl⟩
  | cons next rest ih =>
      have allowed := (orderly_of_step (orderly_of_run rest orderly)).2
      obtain ⟨quietThen, registry⟩ := ih (quiet.step sound allowed) (sound.step next) orderly
      exact ⟨quietThen, registry.trans (quiet.state_step sound allowed).1⟩

end Telemetry.Reconciler.Closing
