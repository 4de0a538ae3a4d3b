import Telemetry.Reconcile.Reconciler
import Telemetry.Turns

/-!
Several notices at the same time, and watchers over a reconciler. Passes take turns under one lock,
so each begins where the one before it ended.
-/

namespace Telemetry.Reconciler

variable {σ ρ τ : Type} [TargetSource σ] [TargetRegistry ρ τ]

/-- Passes in turns over one reconciler. -/
abbrev Passes (σ ρ τ : Type) := Turns PassQuestion.Answer (Option Report) (Reconciler σ ρ τ)

/-- Watchers of one reconciler. -/
abbrev Watched (σ ρ τ : Type) := Watching PassQuestion.Answer (Option Report) (Reconciler σ ρ τ)

/-- Handles notices at the same time, each by a participant of its own, in no more than the given
number of rounds: the reports of those that call for a pass, in the order in which they ended. -/
def together (roundLimit : Nat) (notices : List Notice) (state : Reconciler σ ρ τ) :
    List (Option Report) × Reconciler σ ρ τ :=
  let passes : Passes σ ρ τ := Turns.start state ((notices.filterMap passFor).map ([·]))
  let ended := passes.rounds handler roundLimit
  (ended.finished.map (·.2), ended.state)

/-- Lets one watcher go through waiting notices, in no more than the given number of rounds. After
a shutdown it leaves them. -/
def watchThrough (roundLimit : Nat) (notices : List Notice) (shutdown : Bool)
    (state : Reconciler σ ρ τ) : Reconciler σ ρ τ :=
  let watched : Watched σ ρ τ := ⟨state, none, [⟨notices, true, none, [], false⟩], shutdown, []⟩
  (watched.rounds handling roundLimit).state

end Telemetry.Reconciler
