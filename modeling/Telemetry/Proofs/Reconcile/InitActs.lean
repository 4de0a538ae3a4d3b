import Mathlib.Data.List.Basic
import Telemetry.Reconcile.InitAct

/-!
Initialisations in flight, and the two counts of them. The gauge goes by the guards that bodies hold
and the tracker by the tokens of the tasks around them: each beginning takes one of both, and each
end, of whichever kind, gives one of both back.
-/

namespace Telemetry

variable {σ ρ τ : Type}

namespace Reconciler

/-- Every initialisation that has not ended holds a guard and a token, and nobody else does. -/
structure Accounted (state : Reconciler σ ρ τ) : Prop where
  guards : state.metrics.pendingInits = state.pending.length
  tokens : state.pendingInits = state.pending.length

/-- An initialisation is taken off those that have not ended. -/
def leaving (state : Reconciler σ ρ τ) (place : Nat) : Reconciler σ ρ τ :=
  { state with pending := state.pending.eraseIdx place }

theorem endInit_eq (state : Reconciler σ ρ τ) (how : InitEnd) :
    state.endInit how = state.dropGuard.dropToken := by
  cases how <;> rfl

namespace Accounted

variable {state : Reconciler σ ρ τ} {place : Nat}

theorem start (source : σ) (registry : ρ) :
    (Reconciler.start source registry : Reconciler σ ρ τ).Accounted := ⟨rfl, rfl⟩

theorem begin (accounted : state.Accounted) (task : τ) : (state.beginInit task).Accounted where
  guards := by
    change state.metrics.pendingInits + 1 = ((state.pending ++ [task]).length : Int)
    rw [accounted.guards, List.length_append]
    rfl
  tokens := by
    change state.pendingInits + 1 = (state.pending ++ [task]).length
    rw [accounted.tokens, List.length_append]
    rfl

/-- While the guard is gone and the token still there, the gauge is behind by one. -/
theorem between (accounted : state.Accounted) :
    (state.leaving place).dropGuard.metrics.pendingInits + 1 =
      (state.leaving place).dropGuard.pendingInits := by
  change state.metrics.pendingInits - 1 + 1 = (state.pendingInits : Int)
  rw [accounted.guards, accounted.tokens]
  omega

theorem given (accounted : state.Accounted) (inside : place < state.pending.length) :
    (state.leaving place).dropGuard.dropToken.Accounted where
  guards := by
    change state.metrics.pendingInits - 1 = ((state.pending.eraseIdx place).length : Int)
    rw [accounted.guards, List.length_eraseIdx_of_lt inside]
    omega
  tokens := by
    change state.pendingInits - 1 = (state.pending.eraseIdx place).length
    rw [accounted.tokens, List.length_eraseIdx_of_lt inside]

/-- A body that has come to its end drops its guard as it returns. -/
theorem returned (accounted : state.Accounted) (inside : place < state.pending.length) :
    ((state.leaving place).endInit .returned).Accounted := accounted.given inside

/-- A body that gives up, or is dropped where it stands, takes its guard with it. -/
theorem cancelled (accounted : state.Accounted) (inside : place < state.pending.length) :
    ((state.leaving place).endInit .cancelled).Accounted := accounted.given inside

/-- A body that is unwound drops its guard on the way. -/
theorem panicked (accounted : state.Accounted) (inside : place < state.pending.length) :
    ((state.leaving place).endInit .panicked).Accounted := accounted.given inside

theorem ended (accounted : state.Accounted) (inside : place < state.pending.length)
    (how : InitEnd) : ((state.leaving place).endInit how).Accounted := by
  cases how with
  | returned => exact accounted.returned inside
  | cancelled => exact accounted.cancelled inside
  | panicked => exact accounted.panicked inside

variable [TargetSource σ] [TargetRegistry ρ τ]

theorem handler (accounted : state.Accounted) (question : PassQuestion) :
    (Reconciler.handler question state).2.Accounted := by
  cases question with
  | spawn name => exact accounted.begin _
  | count operation success =>
      refine ⟨Eq.trans ?_ accounted.guards, accounted.tokens⟩
      cases operation <;> rfl
  | _ => exact ⟨accounted.guards, accounted.tokens⟩

theorem run {α : Type} (accounted : state.Accounted) (program : PassProgram α) :
    (program.run Reconciler.handler state).2.Accounted := by
  induction program generalizing state with
  | done result => exact accounted
  | ask question next ih => exact ih _ (accounted.handler question)

end Accounted

end Reconciler

namespace InitAct

/-- The number of initialisations that end by the step. -/
def endings (act : InitAct ρ τ) (state : Reconciler σ ρ τ) : Nat :=
  match act.outcome with
  | .goesOn _ => 0
  | .ends _ => if act.place < state.pending.length then 1 else 0

@[simp] theorem pendingInits_count (act : InitAct ρ τ) (metrics : Metrics) :
    (act.count metrics).pendingInits = metrics.pendingInits := by
  unfold count
  split <;> rfl

variable (act : InitAct ρ τ) {state : Reconciler σ ρ τ}

theorem accounted_shown (accounted : state.Accounted) : (act.shown state).Accounted where
  guards := (act.pendingInits_count state.metrics).trans accounted.guards
  tokens := accounted.tokens

theorem apply_of_outside (outside : ¬ act.place < state.pending.length) : act.apply state = state :=
  if_neg outside

theorem apply_of_goesOn {task : τ} (inside : act.place < state.pending.length)
    (goesOn : act.outcome = .goesOn task) :
    act.apply state = { act.shown state with pending := state.pending.set act.place task } := by
  rw [apply, if_pos inside, goesOn]

theorem apply_of_ends {how : InitEnd} (inside : act.place < state.pending.length)
    (ends : act.outcome = .ends how) :
    act.apply state = ((act.shown state).leaving act.place).endInit how := by
  rw [apply, if_pos inside, ends]
  rfl

theorem accounted_apply (accounted : state.Accounted) : (act.apply state).Accounted := by
  have shown := act.accounted_shown accounted
  by_cases inside : act.place < state.pending.length
  · cases outcome : act.outcome with
    | goesOn task =>
        have same : (state.pending.set act.place task).length = state.pending.length :=
          List.length_set
        rw [act.apply_of_goesOn inside outcome]
        exact ⟨shown.guards.trans (congrArg _ same.symm), shown.tokens.trans same.symm⟩
    | ends how =>
        rw [act.apply_of_ends inside outcome]
        exact shown.ended inside how
  · rw [act.apply_of_outside inside]
    exact accounted

theorem pending_apply (state : Reconciler σ ρ τ) :
    (act.apply state).pending.length + act.endings state = state.pending.length := by
  by_cases inside : act.place < state.pending.length
  · cases outcome : act.outcome with
    | goesOn task =>
        rw [act.apply_of_goesOn inside outcome, endings, outcome]
        exact List.length_set
    | ends how =>
        have shorter := List.length_eraseIdx_of_lt inside
        rw [act.apply_of_ends inside outcome, endings, outcome, Reconciler.endInit_eq]
        simp only [if_pos inside]
        change (state.pending.eraseIdx act.place).length + 1 = _
        omega
  · rw [act.apply_of_outside inside, endings]
    split
    · rfl
    · rw [if_neg inside]
      rfl

end InitAct

def InitOutcome.end? {τ : Type} : InitOutcome τ → Option InitEnd
  | .goesOn _ => none
  | .ends how => some how

namespace Initialising

/-- What a step makes of a registry with initialisations on their way. -/
def showing (state : Initialising) (act : InitAct Registry InitTask) : Initialising where
  registry := act.change state.registry
  tasks :=
    match act.outcome with
    | .goesOn task => state.tasks.set act.place task
    | .ends _ => state.tasks.eraseIdx act.place
  metrics := act.count state.metrics
  shutdown := state.shutdown
  log := state.log ++ act.noted

/-- A step shows as an act does, and its initialisation ends just when that of the act does. -/
structure Shows (state : Initialising) (step : InitStep) (act : InitAct Registry InitTask) :
    Prop where
  inside : act.place < state.tasks.length
  after : state.step step = state.showing act
  ends : state.endOf step = act.outcome.end?

theorem replaced_showing {state : Initialising} {place : Nat} {task : InitTask}
    (standing : state.tasks[place]? = some task) (next : InitTask) (registry : Registry) :
    ∃ act : InitAct Registry InitTask, act.place < state.tasks.length ∧
      { state.replaced place next with registry := registry } = state.showing act ∧
      act.outcome.end? = none := by
  obtain ⟨inside, _⟩ := List.getElem?_eq_some_iff.mp standing
  refine ⟨⟨place, fun _ => registry, .goesOn next, none, []⟩, inside, ?_, rfl⟩
  simp [replaced, showing, InitAct.count]

/-- The success or failure that an ending counts as, if it does. -/
def countedAs (registry : Registry) (seen : Registration) : Ending → Option Bool
  | .connected _ => if registry.isLive seen then some true else none
  | .failed _ => some false
  | .cancelled => none

theorem countEnding_eq (registry : Registry) (seen : Registration) (ending : Ending)
    (metrics : Metrics) (act : InitAct Registry InitTask)
    (counted : act.counted = countedAs registry seen ending) :
    registry.countEnding seen ending metrics = act.count metrics := by
  rw [InitAct.count, counted]
  cases ending with
  | connected channel =>
      by_cases live : registry.isLive seen = true
      · simp only [Registry.countEnding, countedAs, if_pos live]
      · simp only [Registry.countEnding, countedAs, if_neg live]
  | failed reason => rfl
  | cancelled => rfl

end Initialising

namespace Initialising

variable {state : Initialising} {place : Nat}

theorem shows_abandon (inside : place < state.tasks.length) :
    ∃ act, state.Shows (.abandon place) act := by
  refine ⟨⟨place, id, .ends .panicked, none, []⟩, inside, ?_, if_pos inside⟩
  simp [step, dropped, showing, InitAct.count]

theorem shows_conclude {seen : Registration} {ending : Ending}
    (standing : state.tasks[place]? = some (.connecting seen))
    (allowed : state.allows seen ending = true) :
    ∃ act, state.Shows (.conclude place ending) act := by
  obtain ⟨act, inside, after, goesOn⟩ :=
    replaced_showing standing (.concluded seen ending) state.registry
  refine ⟨act, inside, ?_, goesOn.symm⟩
  rw [← after, step, conclude, standing]
  exact if_pos allowed

theorem shows_proceed {task : InitTask} (standing : state.tasks[place]? = some task)
    (moving : ∀ seen, task ≠ .connecting seen) : ∃ act, state.Shows (.proceed place) act := by
  obtain ⟨inside, _⟩ := List.getElem?_eq_some_iff.mp standing
  cases task with
  | spawned name =>
      cases found : state.registry.observe name with
      | some seen =>
          obtain ⟨act, inside, after, goesOn⟩ :=
            replaced_showing standing (.observed seen) state.registry
          refine ⟨act, inside, ?_, ?_⟩
          · rw [← after, step, proceed, standing]
            simp only [found]
            rfl
          · simp only [endOf, standing, found, goesOn, Option.isNone_some, Bool.false_eq_true,
              if_false]
      | none =>
          refine ⟨⟨place, id, .ends .returned, none,
            [⟨.warn, .registry, "init requested for unknown target target_name=" ++ name⟩]⟩,
            inside, ?_, ?_⟩
          · rw [step, proceed, standing]
            simp only [found]
            rfl
          · simp only [endOf, standing, found, Option.isNone_none, if_true, InitOutcome.end?]
  | observed seen =>
      obtain ⟨act, inside, after, goesOn⟩ :=
        replaced_showing standing (.connecting seen) (state.registry.markConnecting seen)
      refine ⟨act, inside, ?_, ?_⟩
      · rw [← after, step, proceed, standing]
      · simp only [endOf, standing, goesOn]
  | connecting seen => exact absurd rfl (moving seen)
  | concluded seen ending =>
      have how : ∃ how, state.endOf (.proceed place) = some how := by
        simp only [endOf, standing]
        cases ending <;> exact ⟨_, rfl⟩
      obtain ⟨how, ends⟩ := how
      let act : InitAct Registry InitTask := ⟨place, fun _ => state.registry.record seen ending,
        .ends how, countedAs state.registry seen ending,
        state.registry.endingEntries seen ending⟩
      refine ⟨act, inside, ?_, ends⟩
      rw [step, proceed, standing]
      simp only [countEnding_eq _ _ _ _ act rfl]
      rfl

/-- A step of an initialisation does nothing, or it shows like this from outside. -/
theorem step_shows (state : Initialising) (step : InitStep) :
    (state.step step = state ∧ state.endOf step = none) ∨ ∃ act, state.Shows step act := by
  cases step with
  | abandon place =>
      by_cases inside : place < state.tasks.length
      · exact .inr (shows_abandon inside)
      · refine .inl ⟨?_, if_neg inside⟩
        rw [step, dropped, List.eraseIdx_of_length_le (Nat.not_lt.mp inside)]
  | conclude place ending =>
      by_cases waits : ∃ seen, state.tasks[place]? = some (.connecting seen) ∧
          state.allows seen ending = true
      · obtain ⟨seen, standing, allowed⟩ := waits
        exact .inr (shows_conclude standing allowed)
      · refine .inl ⟨?_, rfl⟩
        rw [step, conclude]
        split
        · rename_i seen standing
          exact if_neg fun allowed => waits ⟨seen, standing, allowed⟩
        · rfl
  | proceed place =>
      cases standing : state.tasks[place]? with
      | none => exact .inl ⟨by rw [step, proceed, standing], by simp only [endOf, standing]⟩
      | some task =>
          by_cases waits : ∃ seen, task = .connecting seen
          · obtain ⟨seen, rfl⟩ := waits
            exact .inl ⟨by rw [step, proceed, standing], by simp only [endOf, standing]⟩
          · exact .inr (shows_proceed standing fun seen same => waits ⟨seen, same⟩)

end Initialising

namespace Reconciler

theorem shows_apply {state : Reconciler σ Registry InitTask} {step : InitStep}
    {act : InitAct Registry InitTask} (shows : state.initialising.Shows step act) :
    state.initStep step = act.apply state := by
  have inside : act.place < state.pending.length := shows.inside
  rw [initStep, shows.after, shows.ends, InitAct.apply, if_pos inside]
  obtain ⟨place, change, outcome, counted, noted⟩ := act
  cases outcome <;> rfl

/-- Each step of an initialisation of a registered target is one that shows like this. -/
theorem initStep_eq_apply (state : Reconciler σ Registry InitTask) (step : InitStep) :
    ∃ act : InitAct Registry InitTask, state.initStep step = act.apply state := by
  rcases state.initialising.step_shows step with ⟨same, goesOn⟩ | ⟨act, shows⟩
  · refine ⟨⟨state.pending.length, id, .ends .returned, none, []⟩, ?_⟩
    rw [InitAct.apply_of_outside _ (Nat.lt_irrefl _), initStep, same, goesOn]
    rfl
  · exact ⟨act, shows_apply shows⟩

/-- Apart from the two counts, a step leaves what the registry and its initialisations leave. -/
theorem initStep_cases (state : Reconciler σ Registry InitTask) (step : InitStep) :
    let stepped := state.withInitialising (state.initialising.step step)
    state.initStep step = stepped ∨ state.initStep step = stepped.dropGuard.dropToken := by
  intro stepped
  cases ends : state.initialising.endOf step with
  | none => exact .inl (by rw [initStep, ends])
  | some how => exact .inr (by simp only [initStep, ends]; exact endInit_eq _ how)

section

variable (state : Reconciler σ Registry InitTask) (step : InitStep)

@[simp] theorem registry_initStep :
    (state.initStep step).registry = (state.initialising.step step).registry := by
  rcases state.initStep_cases step with same | same <;> rw [same] <;> rfl

@[simp] theorem pending_initStep :
    (state.initStep step).pending = (state.initialising.step step).tasks := by
  rcases state.initStep_cases step with same | same <;> rw [same] <;> rfl

@[simp] theorem source_initStep : (state.initStep step).source = state.source := by
  rcases state.initStep_cases step with same | same <;> rw [same] <;> rfl

end

end Reconciler

end Telemetry
