import Mathlib.Algebra.GroupWithZero.Nat
import Telemetry.Proofs.Reconcile.Completion
import Telemetry.Proofs.Reconcile.InitActs

/-!
The number of initialisations in flight, counted twice: by the tokens that a tracker has given out,
and by a gauge whose guards go up and down with the bodies that hold them. Both are what all passes
have added so far, less what has ended.
-/

namespace Telemetry.Reconciler

open Program (Leads)

variable {σ ρ τ : Type}

/-- What can happen to initialisations in flight. -/
inductive FlightStep (σ ρ τ : Type) where
  /-- A call that handles notices goes one step on in its passes. -/
  | call (index : Nat)
  /-- An initialisation goes on; see `Reconciler.initStep_eq_apply`. -/
  | init (act : InitAct ρ τ)
  /-- Something else comes to be declared. -/
  | declare (source : σ)
  /-- Initialisations are told to stop. -/
  | shutdown
  /-- They are waited for from now on. -/
  | close

/-- Passes in turns, what the one under way has asked and was answered, and the number of
initialisations that have ended. -/
structure Flights (σ ρ τ : Type) where
  passes : Passes σ ρ τ
  asked : List (Exchange PassQuestion.Answer)
  ended : Nat

namespace Flights

variable {flights : Flights σ ρ τ} {index : Nat}

/-- Calls that handle notices, over a source and a registry in which nothing has been begun. -/
def start (source : σ) (registry : ρ) (notices : List (List Notice)) : Flights σ ρ τ :=
  ⟨Turns.start (Reconciler.start source registry) (notices.map (·.filterMap passFor)), [], 0⟩

def state (flights : Flights σ ρ τ) : Reconciler σ ρ τ := flights.passes.state

/-- The flights with their reconciler changed. -/
def withState (flights : Flights σ ρ τ) (state : Reconciler σ ρ τ) : Flights σ ρ τ :=
  { flights with passes := { flights.passes with state := state } }

/-- The number of names on the lists of what all passes have added so far. Of a pass under way these
are the names that it has spawned. -/
def addedSoFar (flights : Flights σ ρ τ) : Nat :=
  (flights.passes.finished.map fun finished => (Pass.addedBy finished.2).length).sum +
    (spawned flights.asked).length

/-- Both counts are right, and each initialisation that was begun is pending or has ended. -/
structure Balanced (flights : Flights σ ρ τ) : Prop where
  waiting : ∀ programs ∈ flights.passes.waiting, ∀ program ∈ programs, program = Pass.program
  idle : flights.passes.holder = none → flights.asked = []
  held : ∀ owner program, flights.passes.holder = some (owner, program) →
    Leads Pass.program flights.asked program
  accounted : flights.state.Accounted
  total : flights.state.pending.length + flights.ended = flights.addedSoFar

namespace Balanced

theorem start (source : σ) (registry : ρ) (notices : List (List Notice)) :
    (Flights.start source registry notices : Flights σ ρ τ).Balanced where
  waiting := fun _ listed _ waits => eq_program_of_waiting listed waits
  idle := fun _ => rfl
  held := fun _ _ held => by cases held
  accounted := .start source registry
  total := rfl

theorem take (balanced : flights.Balanced) {program : PassProgram (Option Report)}
    {rest : List (PassProgram (Option Report))} (free : flights.passes.holder = none)
    (standing : flights.passes.waiting[index]? = some (program :: rest)) :
    Balanced { flights with
      passes := { flights.passes with
        waiting := flights.passes.waiting.set index rest
        holder := some (index, program)
        taken := flights.passes.taken ++ [index] } } := by
  obtain ⟨isPass, waiting⟩ := Turns.forall_waiting_take balanced.waiting standing
  refine { balanced with waiting := waiting, idle := nofun, held := ?_ }
  intro owner begun held
  cases held
  rw [balanced.idle free, isPass]
  exact .here _

/-- The pass under way ends, with a report of what it has spawned. -/
theorem done (balanced : flights.Balanced) {result : Option Report}
    (held : flights.passes.holder = some (index, .done result)) :
    Balanced { flights with
      passes := { flights.passes with
        holder := none
        finished := flights.passes.finished ++ [(index, result)] }
      asked := [] } where
  waiting := balanced.waiting
  idle := fun _ => rfl
  held := nofun
  accounted := balanced.accounted
  total := by
    have complete := Pass.complete_of_leads (balanced.held index _ held)
    change flights.state.pending.length + flights.ended =
      ((flights.passes.finished ++ [(index, result)]).map _).sum + 0
    rw [balanced.total, addedSoFar, complete.spawned_eq, List.map_append, List.sum_append]
    rfl

theorem beside (balanced : flights.Balanced) {state : Reconciler σ ρ τ} (ended : Nat)
    (accounted : state.Accounted)
    (pending : state.pending.length + ended = flights.state.pending.length) :
    Balanced { flights.withState state with ended := flights.ended + ended } where
  waiting := balanced.waiting
  idle := balanced.idle
  held := balanced.held
  accounted := accounted
  total := by
    have total := balanced.total
    change state.pending.length + (flights.ended + ended) = flights.addedSoFar
    omega

end Balanced

variable [TargetSource σ] [TargetRegistry ρ τ]

def step (flights : Flights σ ρ τ) : FlightStep σ ρ τ → Flights σ ρ τ
  | .call index =>
      { flights with
        passes := flights.passes.advance handler index
        asked :=
          Program.notedBy handler flights.state flights.asked flights.passes.holder index }
  | .init act =>
      { flights.withState (act.apply flights.state) with
        ended := flights.ended + act.endings flights.state }
  | .declare source => flights.withState (flights.state.withSource source)
  | .shutdown => flights.withState { flights.state with shutdown := true }
  | .close => flights.withState flights.state.close

def run (flights : Flights σ ρ τ) (steps : List (FlightStep σ ρ τ)) : Flights σ ρ τ :=
  steps.foldl step flights

/-- A question begins one initialisation if it spawns, and else none. -/
theorem pending_handler (question : PassQuestion) (state : Reconciler σ ρ τ) :
    (handler question state).2.pending.length =
      state.pending.length + (spawned [⟨question, (handler question state).1⟩]).length := by
  cases question with
  | spawn name => exact List.length_append
  | _ => rfl

namespace Balanced

theorem ask (balanced : flights.Balanced) {question : PassQuestion}
    {next : question.Answer → PassProgram (Option Report)}
    (held : flights.passes.holder = some (index, .ask question next)) :
    Balanced { flights with
      passes := { flights.passes with
        state := (handler question flights.state).2
        holder := some (index, next (handler question flights.state).1) }
      asked := flights.asked ++ [⟨question, (handler question flights.state).1⟩] } where
  waiting := balanced.waiting
  idle := nofun
  held := by
    intro owner left isHeld
    cases isHeld
    exact (balanced.held index _ held).answered _
  accounted := balanced.accounted.handler question
  total := by
    have total := balanced.total
    have begun := pending_handler question flights.state
    change (handler question flights.state).2.pending.length + flights.ended = _
    simp only [addedSoFar, spawned_append, List.length_append] at total ⊢
    omega

theorem call (balanced : flights.Balanced) (index : Nat) :
    (flights.step (.call index)).Balanced := by
  simp only [Flights.step, Turns.advance, Program.notedBy]
  cases held : flights.passes.holder with
  | none =>
      dsimp only
      rw [← balanced.idle held]
      split
      · rename_i program rest standing
        exact balanced.take held standing
      · exact balanced
  | some holding =>
      obtain ⟨owner, program⟩ := holding
      dsimp only
      by_cases own : owner = index
      · subst own
        simp only [if_true]
        cases program with
        | done result => exact balanced.done held
        | ask question next => exact balanced.ask held
      · simp only [if_neg own]
        exact balanced

theorem step (balanced : flights.Balanced) (step : FlightStep σ ρ τ) :
    (flights.step step).Balanced := by
  cases step with
  | call index => exact balanced.call index
  | init act =>
      exact balanced.beside _ (act.accounted_apply balanced.accounted)
        (act.pending_apply flights.state)
  | declare source =>
      exact balanced.beside 0 ⟨balanced.accounted.guards, balanced.accounted.tokens⟩ rfl
  | shutdown =>
      exact balanced.beside 0 ⟨balanced.accounted.guards, balanced.accounted.tokens⟩ rfl
  | close => exact balanced.beside 0 ⟨balanced.accounted.guards, balanced.accounted.tokens⟩ rfl

theorem run (balanced : flights.Balanced) (steps : List (FlightStep σ ρ τ)) :
    (flights.run steps).Balanced := by
  induction steps generalizing flights with
  | nil => exact balanced
  | cons first rest ih => exact ih (balanced.step first)

end Balanced

/-- Whatever calls and initialisations have done, and however initialisations have ended: the gauge
shows the number of initialisations that are tracked, which is the number of all names that passes
have added, less the number of initialisations that have ended. So it is never negative, and zero
when all of them have ended. While no pass is under way, the names are those of the reports. -/
theorem pending_counted (source : σ) (registry : ρ) (notices : List (List Notice))
    (steps : List (FlightStep σ ρ τ)) :
    let flights := (start source registry notices).run steps
    let gauge := flights.state.metrics.pendingInits
    gauge = flights.state.pendingInits ∧
      gauge = (flights.addedSoFar : Int) - flights.ended ∧
      0 ≤ gauge ∧
      (flights.ended = flights.addedSoFar → gauge = 0) ∧
      (flights.passes.holder = none → flights.addedSoFar =
        (flights.passes.finished.map fun finished => (Pass.addedBy finished.2).length).sum) := by
  intro flights gauge
  have balanced : flights.Balanced := (Balanced.start source registry notices).run steps
  have guards : gauge = flights.state.pending.length := balanced.accounted.guards
  have tokens := balanced.accounted.tokens
  have total := balanced.total
  refine ⟨?_, by omega, by omega, fun allEnded => by omega, fun free => ?_⟩
  · rw [guards, tokens]
  · rw [addedSoFar, balanced.idle free]
    rfl

end Flights

end Telemetry.Reconciler
