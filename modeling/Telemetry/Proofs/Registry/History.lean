import Telemetry.Proofs.Registry.Entries
import Telemetry.Registry.Initialisation

/-!
What happens to a registry with initialisations on their way, and the history of it: which
registration was there when each initialisation was called for, which one it found when it began,
and which ones it marked. The history is kept beside the registry and decides nothing.
-/

namespace Telemetry

/-- A change that an initialisation makes to the registration that it has seen. -/
inductive Mark where
  | connecting
  | ended (ending : Ending)
deriving DecidableEq, Repr

namespace Mark

def apply : Mark → Entry → Entry
  | .connecting, entry => { entry with state := .connecting }
  | .ended ending, entry => Registry.applyEnding ending entry

def isEnd : Mark → Bool
  | .connecting => false
  | .ended _ => true

def isConnection : Mark → Bool
  | .ended (.connected _) => true
  | _ => false

@[simp] theorem apply_generation (mark : Mark) (entry : Entry) :
    (mark.apply entry).generation = entry.generation := by
  rcases mark with _ | (_ | _ | _) <;> rfl

@[simp] theorem apply_target (mark : Mark) (entry : Entry) :
    (mark.apply entry).target = entry.target := by
  rcases mark with _ | (_ | _ | _) <;> rfl

theorem isEnd_of_isConnection {mark : Mark} (connection : mark.isConnection = true) :
    mark.isEnd = true := by
  rcases mark with _ | (_ | _ | _) <;> first | rfl | cases connection

end Mark

/-- The registration that an initialisation has seen, once it has begun. -/
def InitTask.seen? : InitTask → Option Registration
  | .spawned _ => none
  | .observed seen => some seen
  | .connecting seen => some seen
  | .concluded seen _ => some seen

namespace Initialising

/-- What can happen to a registry with initialisations on their way. -/
inductive Move where
  | add (target : Target)
  | delete (name : String)
  /-- An initialisation of the target of a name is called for. -/
  | call (name : String)
  | init (step : InitStep)
  /-- The signal to stop is given, or replaced by one that is not given. -/
  | signal (given : Bool)

def move (state : Initialising) : Move → Initialising
  | .add target => { state with registry := (TargetRegistry.add target state.registry).2 }
  | .delete name => { state with registry := (TargetRegistry.delete name state.registry).2 }
  | .call name => { state with tasks := state.tasks ++ [TargetRegistry.spawn Registry name] }
  | .init step => state.step step
  | .signal given => { state with shutdown := given }

def empty (dialing : Dialing) : Initialising :=
  ⟨Registry.empty dialing, [], Metrics.zero, false, []⟩

end Initialising

/-- A mark, with the call behind the initialisation that made it and the number of the registration
that it is on. -/
structure Marking where
  caller : Nat
  generation : Nat
  mark : Mark
deriving DecidableEq, Repr

/-- What came of the calls for initialisations so far. Calls are numbered in their order. -/
structure History where
  /-- The number of the registration that was under the name at each call. -/
  origins : List (Option Nat)
  /-- The calls behind the initialisations that have not ended, in the order of these. -/
  callers : List Nat
  /-- The calls whose initialisations have begun, each with the number that was found then. -/
  begun : List (Nat × Nat)
  markings : List Marking

namespace History

open Initialising (Move)

def empty : History := ⟨[], [], [], []⟩

/-- The number of the registration that was under the name when an initialisation was called for. -/
def origin? (history : History) (caller : Nat) : Option Nat := (history.origins[caller]?).join

def markingsOn (history : History) (generation : Nat) : List Marking :=
  history.markings.filter (fun marking => marking.generation == generation)

def called (history : History) (origin : Option Nat) : History :=
  { history with
    origins := history.origins ++ [origin]
    callers := history.callers ++ [history.origins.length] }

def begins (history : History) (caller generation : Nat) : History :=
  { history with begun := history.begun ++ [(caller, generation)] }

/-- A registration that is not there any more cannot be marked. -/
def marks (history : History) (registry : Registry) (caller : Nat) (seen : Registration)
    (mark : Mark) : History :=
  if registry.isLive seen then
    { history with markings := history.markings ++ [⟨caller, seen.generation, mark⟩] }
  else history

def leaves (history : History) (place : Nat) : History :=
  { history with callers := history.callers.eraseIdx place }

/-- What an initialisation does when it goes on by itself. -/
def proceeds (history : History) (state : Initialising) (place : Nat) : History :=
  match history.callers[place]?, state.tasks[place]? with
  | some caller, some (.spawned name) =>
      match state.registry.observe name with
      | some seen => history.begins caller seen.generation
      | none => history.leaves place
  | some caller, some (.observed seen) => history.marks state.registry caller seen .connecting
  | some caller, some (.concluded seen ending) =>
      (history.leaves place).marks state.registry caller seen (.ended ending)
  | _, _ => history

def note (history : History) (state : Initialising) : Move → History
  | .call name => history.called (state.registry.generation? name)
  | .init (.proceed place) => history.proceeds state place
  | .init (.abandon place) => history.leaves place
  | _ => history

end History

/-- A registry with initialisations on their way, and the history that led there. -/
structure Recorded where
  state : Initialising
  history : History

namespace Recorded

def start (dialing : Dialing) : Recorded := ⟨Initialising.empty dialing, History.empty⟩

def move (recorded : Recorded) (move : Initialising.Move) : Recorded :=
  ⟨recorded.state.move move, recorded.history.note recorded.state move⟩

def run (recorded : Recorded) (moves : List Initialising.Move) : Recorded :=
  moves.foldl Recorded.move recorded

/-- Keeping a history changes nothing of what happens. -/
theorem run_state (recorded : Recorded) (moves : List Initialising.Move) :
    (recorded.run moves).state = moves.foldl Initialising.move recorded.state := by
  induction moves generalizing recorded with
  | nil => rfl
  | cons first rest ih => exact ih (recorded.move first)

end Recorded

namespace Registry

variable {registry : Registry} {seen : Registration}

theorem isLive_iff : registry.isLive seen = true ↔
    registry.generation? seen.name = some seen.generation :=
  isCurrent_iff

/-- A mark on a registration that is not there any more changes nothing. -/
theorem update_of_not_isLive {change : Entry → Entry} (gone : registry.isLive seen = false) :
    registry.update seen.name seen.generation change = registry := by
  unfold isLive isCurrent at gone
  unfold update
  cases found : registry.entries.get? seen.name with
  | none => rfl
  | some entry =>
      have other : ¬ entry.generation = seen.generation := by simpa [found] using gone
      simp only [if_neg other]

theorem observe_eq_some {name : String} (found : registry.observe name = some seen) :
    seen.name = name ∧ registry.generation? name = some seen.generation := by
  obtain ⟨entry, lookup, rfl⟩ := Option.map_eq_some_iff.mp found
  exact ⟨rfl, by rw [generation?, entryAt?, lookup]; rfl⟩

end Registry

namespace Initialising

/-- A step of an initialisation marks one registration at most, and does nothing else to the
registry. -/
theorem step_registry_cases (state : Initialising) (step : InitStep) :
    (state.step step).registry = state.registry ∨
      ∃ (seen : Registration) (mark : Mark), (state.step step).registry =
        state.registry.update seen.name seen.generation mark.apply := by
  cases step with
  | proceed place =>
      change (state.proceed place).registry = _ ∨ ∃ _ _, (state.proceed place).registry = _
      unfold proceed
      split
      · split <;> exact .inl rfl
      · exact .inr ⟨_, .connecting, rfl⟩
      · rename_i seen ending _
        exact .inr ⟨seen, .ended ending, rfl⟩
      · exact .inl rfl
  | conclude place ending =>
      change (state.conclude place ending).registry = _ ∨ _
      refine .inl ?_
      unfold conclude
      split
      · split <;> rfl
      · rfl
  | abandon place => exact .inl rfl

/-- A step of an initialisation leaves an entry as it is, or makes one mark on it. -/
theorem entryAt?_step (state : Initialising) (step : InitStep) (name : String) :
    (state.step step).registry.entryAt? name = state.registry.entryAt? name ∨
      ∃ mark : Mark, (state.step step).registry.entryAt? name =
        (state.registry.entryAt? name).map mark.apply := by
  rcases state.step_registry_cases step with same | ⟨seen, mark, marked⟩
  · exact .inl (by rw [same])
  · rw [marked, Registry.entryAt?_update]
    by_cases named : name = seen.name
    · subst named
      rw [if_pos rfl]
      cases found : state.registry.entryAt? seen.name with
      | none => exact .inl rfl
      | some entry =>
          by_cases current : entry.generation = seen.generation
          · exact .inr ⟨mark, by simp only [Option.map_some, if_pos current]⟩
          · exact .inl (by simp only [Option.map_some, if_neg current])
    · exact .inl (if_neg named)

theorem target?_step (state : Initialising) (step : InitStep) (name : String) :
    (state.step step).registry.target? name = state.registry.target? name := by
  rw [Registry.target?, Registry.target?]
  rcases state.entryAt?_step step name with same | ⟨mark, marked⟩
  · rw [same]
  · rw [marked, Option.map_map]
    exact congrArg (Option.map · _) (funext mark.apply_target)

/-- No step of an initialisation begins another one. -/
theorem count_spawned_step (state : Initialising) (step : InitStep) (name : String) :
    (state.step step).tasks.count (.spawned name) ≤ state.tasks.count (.spawned name) := by
  have dropped : ∀ place, (state.dropped place).tasks.count (.spawned name) ≤
      state.tasks.count (.spawned name) :=
    fun place => (List.eraseIdx_sublist _ _).count_le _
  have replaced : ∀ place (task : InitTask), task ≠ .spawned name →
      (state.replaced place task).tasks.count (.spawned name) ≤
        state.tasks.count (.spawned name) := by
    intro place task begun
    change (state.tasks.set place task).count _ ≤ _
    by_cases inside : place < state.tasks.length
    · have other : (task == .spawned name) = false := beq_false_of_ne begun
      rw [List.count_set inside, other]
      exact Nat.sub_le _ _
    · exact Nat.le_of_eq (by rw [List.set_eq_of_length_le (Nat.not_lt.mp inside)])
  cases step with
  | proceed place =>
      change (state.proceed place).tasks.count _ ≤ _
      unfold proceed
      split
      · split
        · exact replaced _ _ nofun
        · exact dropped place
      · exact replaced _ _ nofun
      · exact dropped place
      · exact Nat.le_refl _
  | conclude place ending =>
      change (state.conclude place ending).tasks.count _ ≤ _
      unfold conclude
      split
      · split
        · exact replaced _ _ nofun
        · exact Nat.le_refl _
      · exact Nat.le_refl _
  | abandon place => exact dropped place

theorem generation?_step (state : Initialising) (step : InitStep) (name : String) :
    (state.step step).registry.generation? name = state.registry.generation? name := by
  rcases state.step_registry_cases step with same | ⟨seen, mark, marked⟩
  · rw [same]
  · rw [marked, Registry.generation?_update mark.apply_generation]

end Initialising

end Telemetry
