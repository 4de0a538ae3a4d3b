import Telemetry.Proofs.Reconcile.Ownership

/-!
Registrations and the initialisations that settle them. As long as none breaks down, every target
that has not come to an end is attended to by an initialisation that has not ended either, or by the
pass that has just added it.
-/

namespace Telemetry

def TargetState.isSettled : TargetState → Bool
  | .connected => true
  | .failed _ => true
  | .cancelled => true
  | .pending => false
  | .connecting => false

/-- The initialisation has seen the registration of the number, or begins with what is under the
name. -/
def InitTask.Attends (task : InitTask) (name : String) (generation : Nat) : Prop :=
  task = .spawned name ∨
    ∃ seen, task.seen? = some seen ∧ seen.name = name ∧ seen.generation = generation

/-- Every target is settled, or will be: by an initialisation, or by one that is still owed. -/
def Registry.Attended (registry : Registry) (owed : Option String) (tasks : List InitTask) : Prop :=
  ∀ name entry, registry.entryAt? name = some entry →
    entry.state.isSettled = true ∨ owed = some name ∨
      ∃ task ∈ tasks, task.Attends name entry.generation

theorem Mark.isSettled_apply {mark : Mark} (isEnd : mark.isEnd = true) (entry : Entry) :
    (mark.apply entry).state.isSettled = true := by
  rcases mark with _ | (_ | _ | _)
  · cases isEnd
  all_goals rfl

theorem InitTask.Attends.of_seen {task : InitTask} {seen : Registration}
    (hasSeen : task.seen? = some seen) : task.Attends seen.name seen.generation :=
  .inr ⟨seen, hasSeen, rfl, rfl⟩

theorem InitTask.Attends.congr {task next : InitTask} {name : String} {generation : Nat}
    (attends : task.Attends name generation) (begun : task.seen?.isSome)
    (same : next.seen? = task.seen?) : next.Attends name generation := by
  rcases attends with rfl | ⟨seen, hasSeen, isIt⟩
  · cases begun
  · exact .inr ⟨seen, same.trans hasSeen, isIt⟩

namespace Registry.Attended

variable {registry : Registry} {owed : Option String} {tasks : List InitTask} {place : Nat}
  {task next : InitTask}

theorem empty (dialing : Dialing) : (Registry.empty dialing).Attended none [] := by
  intro name entry found
  cases found

theorem registered (attended : registry.Attended none tasks) (target : Target) :
    (registry.registered target).Attended (some target.name) tasks := by
  intro name entry found
  rw [entryAt?_registered] at found
  split at found
  · rename_i same
    exact .inr (.inl (congrArg some same.symm))
  · rcases attended name entry found with settled | nothing | attending
    · exact .inl settled
    · cases nothing
    · exact .inr (.inr attending)

theorem unregistered (attended : registry.Attended owed tasks) (name : String) :
    (registry.unregistered name).Attended owed tasks := by
  intro other entry found
  rw [entryAt?_unregistered] at found
  split at found
  · cases found
  · exact attended other entry found

/-- What is owed is called for. -/
theorem call {name : String} (attended : registry.Attended (some name) tasks) :
    registry.Attended none (tasks ++ [.spawned name]) := by
  intro other entry found
  rcases attended other entry found with settled | isOwed | ⟨task, member, attends⟩
  · exact .inl settled
  · cases isOwed
    exact .inr (.inr ⟨.spawned name, by simp, .inl rfl⟩)
  · exact .inr (.inr ⟨task, List.mem_append_left _ member, attends⟩)

theorem replace (attended : registry.Attended owed tasks) (standing : tasks[place]? = some task)
    (keeps : ∀ name entry, registry.entryAt? name = some entry →
      task.Attends name entry.generation → next.Attends name entry.generation) :
    registry.Attended owed (tasks.set place next) := by
  intro name entry found
  rcases attended name entry found with settled | isOwed | ⟨attending, member, attends⟩
  · exact .inl settled
  · exact .inr (.inl isOwed)
  · obtain ⟨inside, _⟩ := List.getElem?_eq_some_iff.mp standing
    obtain ⟨index, stands⟩ := List.mem_iff_getElem?.mp member
    refine .inr (.inr ?_)
    by_cases same : place = index
    · subst same
      cases standing.symm.trans stands
      exact ⟨next, List.mem_set inside next, keeps name entry found attends⟩
    · refine ⟨attending, ?_, attends⟩
      rw [← List.getElem?_set_ne same] at stands
      exact List.mem_of_getElem? stands

theorem drop (attended : registry.Attended owed tasks) (standing : tasks[place]? = some task)
    (done : ∀ name entry, registry.entryAt? name = some entry →
      task.Attends name entry.generation → entry.state.isSettled = true) :
    registry.Attended owed (tasks.eraseIdx place) := by
  intro name entry found
  rcases attended name entry found with settled | isOwed | ⟨attending, member, attends⟩
  · exact .inl settled
  · exact .inr (.inl isOwed)
  · obtain ⟨index, stands⟩ := List.mem_iff_getElem?.mp member
    by_cases same : index = place
    · subst same
      cases standing.symm.trans stands
      exact .inl (done name entry found attends)
    · exact .inr (.inr
        ⟨attending, List.mem_eraseIdx_iff_getElem?.mpr ⟨index, same, stands⟩, attends⟩)

/-- A mark settles its registration, or leaves it to an initialisation that has not ended. -/
theorem mark (attended : registry.Attended owed tasks) (seen : Registration) (mark : Mark)
    (settles : mark.isEnd = true ∨ ∃ task ∈ tasks, task.Attends seen.name seen.generation) :
    (registry.update seen.name seen.generation mark.apply).Attended owed tasks := by
  intro name entry found
  rw [entryAt?_update] at found
  split at found
  · rename_i same
    subst same
    obtain ⟨former, before, rfl⟩ := Option.map_eq_some_iff.mp found
    by_cases current : former.generation = seen.generation
    · rw [if_pos current, Mark.apply_generation, current]
      rcases settles with isEnd | attending
      · exact .inl (Mark.isSettled_apply isEnd former)
      · exact .inr (.inr attending)
    · rw [if_neg current]
      exact attended seen.name former before
  · exact attended name entry found

/-- An initialisation records its ending and is over. -/
theorem finish (attended : registry.Attended owed tasks) {seen : Registration} {ending : Ending}
    (standing : tasks[place]? = some (.concluded seen ending)) :
    (registry.record seen ending).Attended owed (tasks.eraseIdx place) := by
  refine (attended.mark seen (.ended ending) (.inl rfl)).drop standing ?_
  rintro name entry found (impossible | ⟨_, sameSeen, rfl, sameNumber⟩)
  · cases impossible
  · cases sameSeen
    rw [entryAt?_update, if_pos rfl] at found
    obtain ⟨former, _, rfl⟩ := Option.map_eq_some_iff.mp found
    by_cases current : former.generation = seen.generation
    · rw [if_pos current]
      exact Mark.isSettled_apply rfl former
    · rw [if_neg current] at sameNumber
      exact absurd sameNumber.symm current

theorem init {state : Initialising} (attended : state.registry.Attended owed state.tasks)
    {step : InitStep} (unbroken : ∀ place, step ≠ .abandon place) :
    (state.step step).registry.Attended owed (state.step step).tasks := by
  cases step with
  | abandon place => exact absurd rfl (unbroken place)
  | conclude place ending =>
      change (state.conclude place ending).registry.Attended owed
        (state.conclude place ending).tasks
      unfold Initialising.conclude
      split
      · rename_i seen standing
        split
        · exact attended.replace standing fun _ _ _ attends => attends.congr rfl rfl
        · exact attended
      · exact attended
  | proceed place =>
      change (state.proceed place).registry.Attended owed (state.proceed place).tasks
      unfold Initialising.proceed
      split
      · rename_i name standing
        split
        · rename_i seen observed
          obtain ⟨rfl, current⟩ := Registry.observe_eq_some observed
          refine attended.replace standing ?_
          rintro other entry found (same | ⟨_, impossible, _⟩)
          · cases same
            rw [Registry.generation?, found] at current
            exact .inr ⟨seen, rfl, rfl, (Option.some.inj current).symm⟩
          · cases impossible
        · rename_i nothing
          have absent : state.registry.entryAt? name = none := Option.map_eq_none_iff.mp nothing
          refine attended.drop standing ?_
          rintro other entry found (same | ⟨_, impossible, _⟩)
          · cases same
            cases absent.symm.trans found
          · cases impossible
      · rename_i seen standing
        obtain ⟨inside, _⟩ := List.getElem?_eq_some_iff.mp standing
        have replaced : state.registry.Attended owed (state.tasks.set place (.connecting seen)) :=
          attended.replace standing fun _ _ _ attends => attends.congr rfl rfl
        exact replaced.mark seen .connecting
          (.inr ⟨.connecting seen, List.mem_set inside _, .of_seen rfl⟩)
      · rename_i seen ending standing
        exact attended.finish standing
      · exact attended

end Registry.Attended

namespace Pass

def Phase.owed? : Phase → Option String
  | .owing name => some name
  | .settled => none
  | .unread => none

end Pass

namespace Reconciler

variable {σ : Type}

/-- Nothing that is registered is forgotten, whoever holds the lock. -/
structure AllAttended (passes : Passes σ Registry InitTask) : Prop where
  free : passes.holder = none → passes.state.registry.Attended none passes.state.pending
  held : ∀ owner program, passes.holder = some (owner, program) → ∃ phase,
    Pass.InPhase phase program ∧
      passes.state.registry.Attended phase.owed? passes.state.pending
  waiting : ∀ programs ∈ passes.waiting, ∀ program ∈ programs, Pass.InPhase .unread program

namespace AllAttended

variable {passes : Passes σ Registry InitTask}

theorem start (source : σ) (dialing : Dialing) (notices : List (List Notice)) :
    AllAttended (Turns.start (Reconciler.start source (Registry.empty dialing))
      (notices.map (·.filterMap passFor))) where
  free := fun _ => .empty dialing
  held := nofun
  waiting := by
    intro programs listed program waits
    rw [eq_program_of_waiting listed waits]
    exact Pass.inPhase_program

theorem resume (attended : AllAttended passes) {state : Reconciler σ Registry InitTask}
    {index : Nat} {phase : Pass.Phase} {program : PassProgram (Option Report)}
    (inPhase : Pass.InPhase phase program)
    (after : state.registry.Attended phase.owed? state.pending) :
    AllAttended { passes with state := state, holder := some (index, program) } where
  free := nofun
  held := by
    intro owner left held
    cases held
    exact ⟨phase, inPhase, after⟩
  waiting := attended.waiting

variable [TargetSource σ]

theorem ask [KeyedSource σ] (attended : AllAttended passes) {index : Nat} {question : PassQuestion}
    {next : question.Answer → PassProgram (Option Report)}
    (held : passes.holder = some (index, .ask question next)) :
    AllAttended { passes with
      state := (handler question passes.state).2
      holder := some (index, next (handler question passes.state).1) } := by
  obtain ⟨phase, inPhase, before⟩ := attended.held index _ held
  cases inPhase with
  | declared rest =>
      exact attended.resume (rest _ (KeyedSource.keyed passes.state.source)) before
  | live rest => exact attended.resume (rest _) before
  | @delete name _ rest =>
      refine attended.resume (rest _) ?_
      change (passes.state.registry.afterwards (passes.state.registry.delete name)).2.Attended _ _
      rcases passes.state.registry.afterwards_delete_cases name with
        ⟨_, answer⟩ | ⟨_, reason, answer⟩
      · rw [answer]
        exact before.unregistered name
      · rw [answer]
        exact before
  | @add target _ added refused =>
      rcases passes.state.registry.afterwards_add_cases target with
        ⟨_, _, answer⟩ | ⟨_, reason, answer⟩
      · have asked : handler (.add target) passes.state = (.ok (),
            { passes.state with registry := passes.state.registry.registered target }) := by
          simp only [handler, TargetRegistry.add, answer]
        rw [asked]
        exact attended.resume added (before.registered target)
      · have asked : handler (.add target) passes.state = (.error reason, passes.state) := by
          simp only [handler, TargetRegistry.add, answer]
        rw [asked]
        exact attended.resume (refused reason) before
  | spawn rest => exact attended.resume rest before.call
  | count _ rest => exact attended.resume rest before
  | note _ rest => exact attended.resume rest before

theorem advance [KeyedSource σ] (attended : AllAttended passes) (index : Nat) :
    AllAttended (passes.advance handler index) := by
  rcases passes.advance_cases handler index with same | ⟨program, rest, free, standing, taken⟩ |
    ⟨result, held, finished⟩ | ⟨question, next, held, asked⟩
  · rw [same]
    exact attended
  · obtain ⟨unread, others⟩ := Turns.forall_waiting_take attended.waiting standing
    rw [taken]
    exact {
      free := nofun
      held := by
        intro owner holding held
        cases held
        exact ⟨.unread, unread, attended.free free⟩
      waiting := others }
  · obtain ⟨phase, inPhase, before⟩ := attended.held index _ held
    cases inPhase
    rw [finished]
    exact { attended with
      free := fun _ => before
      held := nofun }
  · rw [asked]
    exact attended.ask held

theorem step [KeyedSource σ] (attended : AllAttended passes) {happening : Happening σ}
    (unbroken : ∀ place, happening ≠ .init (.abandon place)) :
    AllAttended (passes.step handler happening.turn) := by
  cases happening with
  | advance index => exact attended.advance index
  | init step =>
      have whole : ∀ place, step ≠ .abandon place := fun place same => unbroken place (same ▸ rfl)
      have goesOn : ∀ {owed : Option String},
          passes.state.registry.Attended owed passes.state.pending →
          (passes.state.initStep step).registry.Attended owed
            (passes.state.initStep step).pending := by
        intro owed before
        have initialising : passes.state.initialising.registry.Attended owed
          passes.state.initialising.tasks := before
        rw [registry_initStep, pending_initStep]
        exact initialising.init whole
      exact {
        free := fun free => goesOn (attended.free free)
        held := by
          intro owner program held
          obtain ⟨phase, inPhase, before⟩ := attended.held owner program held
          exact ⟨phase, inPhase, goesOn before⟩
        waiting := attended.waiting }
  | declare source => exact { attended with }
  | shutdown => exact { attended with }

theorem run [KeyedSource σ] (attended : AllAttended passes) (happenings : List (Happening σ))
    (unbroken : ∀ place, .init (.abandon place) ∉ happenings) :
    AllAttended (passes.run handler (happenings.map Happening.turn)) := by
  induction happenings generalizing passes with
  | nil => exact attended
  | cons first rest ih =>
      have whole : ∀ place, first ≠ .init (.abandon place) :=
        fun place same => unbroken place (same ▸ List.mem_cons_self)
      exact ih (attended.step whole)
        fun place member => unbroken place (List.mem_cons_of_mem _ member)

end AllAttended

/-- When no pass is under way and no initialisation is left, every registered target is settled,
however passes and initialisations came between each other, as long as no initialisation broke
down. An attempt to connect does not break down by itself: it comes to a channel or to an error, or
it is given up for a shutdown or a deletion, and an initialisation does nothing else but look its
target up and record. What is left out is a task that is taken away from outside where it stands,
which records nothing. -/
theorem targets_settle [TargetSource σ] [KeyedSource σ] (source : σ) (dialing : Dialing)
    (notices : List (List Notice)) (happenings : List (Happening σ))
    (unbroken : ∀ place, .init (.abandon place) ∉ happenings) :
    let start : Passes σ Registry InitTask :=
      Turns.start (start source (Registry.empty dialing)) (notices.map (·.filterMap passFor))
    let passes := start.run handler (happenings.map Happening.turn)
    passes.holder = none → passes.state.pending = [] →
      ∀ name ∈ passes.state.registry.names, ∃ state,
        passes.state.registry.state? name = some state ∧
          (state = .connected ∨ (∃ reason, state = .failed reason) ∨ state = .cancelled) := by
  intro start passes free drained name registered
  have attended : AllAttended passes := (AllAttended.start source dialing notices).run _ unbroken
  obtain ⟨entry, found⟩ := Option.isSome_iff_exists.mp (Registry.mem_names.mp registered)
  refine ⟨entry.state, congrArg (Option.map Entry.state) found, ?_⟩
  rcases attended.free free name entry found with settled | nothing | ⟨task, member, _⟩
  · cases state : entry.state with
    | connected => exact .inl rfl
    | failed reason => exact .inr (.inl ⟨reason, rfl⟩)
    | cancelled => exact .inr (.inr rfl)
    | pending =>
        rw [state] at settled
        cases settled
    | connecting =>
        rw [state] at settled
        cases settled
  · cases nothing
  · rw [drained] at member
    cases member

/-- A target is added, deleted and added again before its first initialisation begins, which
connects it; the second one is cancelled by a shutdown. -/
def readded : List (Happening PlacedSource) :=
  List.replicate 8 (.advance 0) ++
    .declare (.declaring []) :: List.replicate 7 (.advance 0) ++
    .declare (.declaring [Target.ofAddress "a" "127.0.0.1:1"]) :: List.replicate 8 (.advance 0) ++
    [.init (.proceed 0), .init (.proceed 0),
      .init (.conclude 0 (.connected ⟨"127.0.0.1:1", true⟩)), .init (.proceed 0),
      .init (.proceed 0), .init (.proceed 0), .shutdown, .init (.conclude 0 .cancelled),
      .init (.proceed 0)]

theorem readded_settles :
    let source := PlacedSource.declaring [Target.ofAddress "a" "127.0.0.1:1"]
    let notices : List (List Notice) := [List.replicate 3 ⟨.write, "c.toml"⟩]
    let start : Passes PlacedSource Registry InitTask :=
      Turns.start (start source (Registry.empty ⟨false, none, false⟩))
        (notices.map (·.filterMap passFor))
    let passes := start.run handler (readded.map Happening.turn)
    (passes.holder.isNone = true ∧ passes.state.pending = [] ∧ passes.finished.length = 3 ∧
      "a" ∈ passes.state.registry.names) ∧
      ∃ state, passes.state.registry.state? "a" = some state ∧
        (state = .connected ∨ (∃ reason, state = .failed reason) ∨ state = .cancelled) := by
  intro source notices start passes
  have reached : passes.holder.isNone = true ∧ passes.state.pending = [] ∧
      passes.finished.length = 3 ∧ "a" ∈ passes.state.registry.names := by decide +kernel
  refine ⟨reached, ?_⟩
  obtain ⟨free, drained, _, registered⟩ := reached
  have unbroken : ∀ place, .init (.abandon place) ∉ readded := by
    intro place member
    simp [readded] at member
  exact targets_settle source ⟨false, none, false⟩ notices readded unbroken
    (Option.isNone_iff_eq_none.mp free) drained "a" registered

end Reconciler

end Telemetry
