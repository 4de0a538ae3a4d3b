import Mathlib.Data.Nat.Find
import Mathlib.Data.Nat.Pairing
import Telemetry.Proofs.Service.Quiescence

/-!
A collector that is shut down. Passes that have begun are seen through unless their watchers break
down, notices that no watcher has taken by then are left, and a call that has come in its turn and
returned that nothing is pending leaves a registry that nothing changes any more.
-/

namespace Telemetry.Reconciler.Closing

variable {σ ρ τ : Type} [TargetSource σ] [TargetRegistry ρ τ] {closing : Closing σ ρ τ}
  {index first : Nat}

/-- What comes of it by a moment when all goes by a schedule. -/
def under (closing : Closing σ ρ τ) (schedule : Nat → ClosingStep σ ρ τ) (moment : Nat) :
    Closing σ ρ τ :=
  closing.run ((List.range moment).map schedule)

section Schedule

variable {schedule : Nat → ClosingStep σ ρ τ} {moment : Nat}

theorem under_succ (closing : Closing σ ρ τ) (schedule : Nat → ClosingStep σ ρ τ)
    (moment : Nat) :
    closing.under schedule (moment + 1) =
      (closing.under schedule moment).step (schedule moment) := by
  rw [under, List.range_succ, List.map_append, run_append]
  rfl

theorem under_lasts {later : Nat} (onward : moment ≤ later) :
    Watching.Lasts (closing.under schedule moment).watched
      (closing.under schedule later).watched := by
  induction later, onward using Nat.le_induction with
  | base => exact (Watching.Stays.of_eq rfl id).toLasts
  | succ later onward ih =>
      rw [under_succ]
      exact ih.trans ((closing.under schedule later).lasts_step _)

/-- What nothing else puts an end to is still so when something comes that comes again and again. -/
theorem until_next {holds : Closing σ ρ τ → Prop} {comes : Nat → Prop}
    (again : ∀ moment, ∃ later, moment ≤ later ∧ comes later)
    (kept : ∀ moment, holds (closing.under schedule moment) → ¬ comes moment →
      holds (closing.under schedule (moment + 1)))
    (now : holds (closing.under schedule moment)) :
    ∃ next, moment ≤ next ∧ comes next ∧ holds (closing.under schedule next) := by
  classical
  obtain ⟨onward, came⟩ := Nat.find_spec (again moment)
  refine ⟨Nat.find (again moment), onward, came, ?_⟩
  have before (later : Nat) (since : moment ≤ later) (upTo : later ≤ Nat.find (again moment)) :
      holds (closing.under schedule later) := by
    induction later, since using Nat.le_induction with
    | base => exact now
    | succ later since ih =>
        refine kept later (ih (Nat.le_of_succ_le upTo)) fun early => ?_
        exact Nat.find_min (again moment) upTo ⟨since, early⟩
  exact before _ onward (Nat.le_refl _)

end Schedule

section UnderWay

variable {owner : Nat} {program : PassProgram (Option Report)}
  {schedule : Nat → ClosingStep σ ρ τ} {moment : Nat}

omit [TargetSource σ] [TargetRegistry ρ τ] in
theorem Beside.held {after : Closing σ ρ τ} (beside : closing.Beside after)
    (held : closing.watched.holder = some (owner, program)) :
    after.asked = closing.asked ∧ after.passes = closing.passes ∧
      after.watched.holder = some (owner, program) :=
  ⟨beside.asked, beside.passes, beside.holder.trans held⟩

end UnderWay

/-- A schedule by which calls come in their turn, and by which the watchers and one of the calls go
on again and again. -/
structure Fair (closing : Closing σ ρ τ) (schedule : Nat → ClosingStep σ ρ τ) (call : Nat) :
    Prop where
  orderly : ∀ moment, (closing.under schedule moment).orderly = true
  watchers : ∀ index moment, ∃ later, moment ≤ later ∧ schedule later = .watcher index
  call : ∀ moment, ∃ later, moment ≤ later ∧ ∃ late, schedule later = .goOn call late

section Returning

variable {schedule : Nat → ClosingStep σ ρ τ} {moment call : Nat} {phase : ShutdownPhase}
  {step : ClosingStep σ ρ τ}

/-- A call stands where it stands until it goes on. -/
theorem phase?_kept (allowed : closing.allows step = true)
    (other : ¬ ∃ late, step = .goOn call late) (stands : closing.service.phase? call = some phase) :
    (closing.step step).service.phase? call = some phase := by
  cases step with
  | shutdown timeoutMs =>
      have inside := Service.lt_of_phase? stands
      change ((closing.service.calls ++ [_])[call]?).map _ = _
      rw [List.getElem?_append_left inside]
      exact stands
  | goOn index late =>
      have different : index ≠ call := fun same => other ⟨late, by rw [same]⟩
      exact (closing.service.phase?_advance_other late different).trans stands
  | drop index => cases allowed
  | spawn => exact stands
  | _ =>
      rw [(quiet_step closing rfl).phase?]
      exact stands

/-- Where a call comes to when it goes on. -/
theorem phase?_goOn (stands : closing.service.phase? call = some phase) (late : Bool) :
    ∃ reached, reached.phase = phase ∧
      (closing.step (.goOn call late)).service.phase? call =
        some (closing.service.callStep late reached).1 := by
  obtain ⟨reached, standing, same⟩ := Option.map_eq_some_iff.mp stands
  exact ⟨reached, same, Service.phase?_advanceCall standing⟩

namespace Fair

theorem allows (fair : closing.Fair schedule call) (moment : Nat) :
    (closing.under schedule moment).allows (schedule moment) = true := by
  have orderly := fair.orderly (moment + 1)
  rw [under_succ] at orderly
  exact (orderly_of_step orderly).2

theorem quiet (fair : closing.Fair schedule call) (quiet : closing.Quiescent first)
    (sound : closing.Sound) (moment : Nat) : (closing.under schedule moment).Quiescent first :=
  (quiet.run sound (fair.orderly moment)).1

/-- The call goes on at some time, and finds itself where it was. -/
theorem next (fair : closing.Fair schedule call)
    (stands : (closing.under schedule moment).service.phase? call = some phase) :
    ∃ next late reached, reached.phase = phase ∧
      (closing.under schedule next).service.phase? call = some phase ∧
      (closing.under schedule (next + 1)).service.phase? call =
        some ((closing.under schedule next).service.callStep late reached).1 := by
  let stays (later : Closing σ ρ τ) : Prop := later.service.phase? call = some phase
  have kept (later : Nat) (now : stays (closing.under schedule later))
      (other : ¬ ∃ late, schedule later = .goOn call late) :
      stays (closing.under schedule (later + 1)) := by
    rw [under_succ]
    exact phase?_kept (fair.allows later) other now
  obtain ⟨next, _, ⟨late, goes⟩, still⟩ := until_next fair.call kept stands
  obtain ⟨reached, same, comes⟩ := phase?_goOn still late
  rw [← goes, ← under_succ] at comes
  exact ⟨next, late, reached, same, still, comes⟩

/-- A watcher that goes on when all is over ends. -/
theorem ends_of_goes (quiet : closing.Quiescent first) (index : Nat) :
    (closing.step (.watcher index)).Ends index := by
  intro later standing
  obtain ⟨earlier, before, _⟩ :=
    (closing.stays_step (.watcher index) nofun).stood standing
  have advanced : (closing.step (.watcher index)).watched =
      closing.watched.advance handling index := rfl
  rw [advanced] at standing
  simp only [Watching.advance, before, quiet.idle index earlier before] at standing
  split at standing
  · rename_i ended
    cases before.symm.trans standing
    exact ended
  · rw [Watching.takeNext, if_pos quiet.told] at standing
    rcases Watching.of_getElem?_replaced standing with ⟨_, rfl⟩ | ⟨different, _⟩
    · rfl
    · exact absurd rfl different

/-- A watcher that is there when all is over ends, and stays so. -/
theorem ends (fair : closing.Fair schedule call) (sound : closing.Sound)
    (quiet : closing.Quiescent first) {task : Nat}
    (inside : task < (closing.under schedule moment).watched.watchers.length) :
    ∃ later, ∀ further, later ≤ further → (closing.under schedule further).Ends task := by
  obtain ⟨goes, since, same⟩ := fair.watchers task moment
  have ended : (closing.under schedule (goes + 1)).Ends task := by
    rw [under_succ, same]
    exact ends_of_goes (fair.quiet quiet sound goes) task
  have insideThen := (under_lasts (Nat.le_succ_of_le since)).inside inside
  exact ⟨goes + 1, fun further onward => ended.lasts insideThen (under_lasts onward)⟩

end Fair

end Returning

/-- A collector of two targets before any watcher. -/
def twoTargets : Reconciler PlacedSource Registry InitTask :=
  .start (PlacedSource.declaring [Target.ofAddress "a" "a:1", Target.ofAddress "b" "b:1"])
    (Registry.empty ⟨false, none, false⟩)

end Telemetry.Reconciler.Closing
