import Telemetry.Reconcile.Reconciler

/-!
Steps of initialisations as they show to the collector around them: what they do to the registry,
what they count and log, and how they end. Whatever a registry does in its initialisations, it is no
more than this.
-/

namespace Telemetry

variable {σ ρ τ : Type}

/-- What becomes of an initialisation by one of its steps. -/
inductive InitOutcome (τ : Type) where
  | goesOn (task : τ)
  | ends (how : InitEnd)

/-- One step of an initialisation as it shows from outside. -/
structure InitAct (ρ τ : Type) where
  /-- Its place among those that have not ended. -/
  place : Nat
  change : ρ → ρ
  outcome : InitOutcome τ
  /-- The success or failure that it counts, if it does. -/
  counted : Option Bool
  noted : List LogEntry

namespace InitAct

def count (act : InitAct ρ τ) (metrics : Metrics) : Metrics :=
  match act.counted with
  | some success => metrics.record .init success
  | none => metrics

/-- What the step does before the initialisation goes on or ends. -/
def shown (act : InitAct ρ τ) (state : Reconciler σ ρ τ) : Reconciler σ ρ τ :=
  { state with
    registry := act.change state.registry
    metrics := act.count state.metrics
    log := state.log ++ act.noted }

/-- What the step makes of a reconciler. A place at which no initialisation stands is none. -/
def apply (act : InitAct ρ τ) (state : Reconciler σ ρ τ) : Reconciler σ ρ τ :=
  if act.place < state.pending.length then
    match act.outcome with
    | .goesOn task => { act.shown state with pending := state.pending.set act.place task }
    | .ends how => { act.shown state with pending := state.pending.eraseIdx act.place }.endInit how
  else state

end InitAct

end Telemetry
