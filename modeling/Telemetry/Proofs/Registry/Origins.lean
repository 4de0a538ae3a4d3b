import Telemetry.Proofs.Registry.Marking

/-!
Initialisations that are called for right after their registration. Each has a registration of its
own, shared with no other, and what it finds when it begins is this one or one made after it.
-/

namespace Telemetry

namespace History

/-- Every call has a registration of its own behind it, and the initialisation that it is for finds
none from before. -/
structure Owns (history : History) (registry : Registry) (tasks : List InitTask) : Prop where
  rooted : ∀ origin ∈ history.origins, ∃ own, origin = some own ∧ own < registry.nextGeneration
  apart : history.origins.Nodup
  ahead : ∀ caller name own, Stands history.callers tasks caller (.spawned name) →
    history.origin? caller = some own →
      ∀ generation, registry.generation? name = some generation → own ≤ generation
  later : ∀ begun ∈ history.begun, ∀ own, history.origin? begun.1 = some own → own ≤ begun.2

/-- The target of the name is registered, and no initialisation has been called for since. -/
def Pledged (history : History) (registry : Registry) (name : String) : Prop :=
  ∃ generation, registry.generation? name = some generation ∧ some generation ∉ history.origins

theorem origin?_called (history : History) (origin : Option Nat) {caller : Nat}
    (earlier : caller < history.origins.length) :
    (history.called origin).origin? caller = history.origin? caller := by
  rw [origin?, origin?, called, List.getElem?_append_left earlier]

theorem origin?_called_last (history : History) (origin : Option Nat) :
    (history.called origin).origin? history.origins.length = origin := by
  simp [origin?, called]

theorem mem_origins {history : History} {caller own : Nat}
    (hasOrigin : history.origin? caller = some own) : some own ∈ history.origins :=
  List.mem_of_getElem? (Option.join_eq_some_iff.mp hasOrigin)

theorem origins_marks (history : History) (registry : Registry) (caller : Nat)
    (seen : Registration) (mark : Mark) :
    (history.marks registry caller seen mark).origins = history.origins := by
  unfold marks
  split <;> rfl

theorem origins_note_init (history : History) (state : Initialising) (step : InitStep) :
    (history.note state (.init step)).origins = history.origins := by
  cases step with
  | proceed place =>
      change (history.proceeds state place).origins = _
      unfold proceeds
      split
      · split <;> rfl
      · exact origins_marks ..
      · exact origins_marks ..
      · rfl
  | conclude place ending => rfl
  | abandon place => rfl

namespace Owns

variable {history : History} {registry after : Registry} {tasks : List InitTask}
  {caller place : Nat} {task next : InitTask} {name : String}

theorem empty (registry : Registry) : History.empty.Owns registry [] where
  rooted := by intro origin member; cases member
  apart := List.nodup_nil
  ahead := by intro caller name own stands; cases stands.mem
  later := by intro begun member; cases member

theorem succeed (owns : history.Owns registry tasks) (succeeds : registry.Succeeds after) :
    history.Owns after tasks :=
  { owns with
    rooted := by
      intro origin member
      obtain ⟨own, same, below⟩ := owns.rooted origin member
      exact ⟨own, same, Nat.lt_of_lt_of_le below succeeds.later⟩
    ahead := by
      intro caller name own stands hasOrigin generation current
      rcases succeeds.kept name generation current with before | new
      · exact owns.ahead caller name own stands hasOrigin generation before
      · obtain ⟨_, same, below⟩ := owns.rooted _ (mem_origins hasOrigin)
        cases same
        exact Nat.le_trans (Nat.le_of_lt below) new }

theorem marks (owns : history.Owns registry tasks) (caller : Nat) (seen : Registration)
    (mark : Mark) : (history.marks registry caller seen mark).Owns registry tasks := by
  unfold History.marks
  split
  · exact { owns with }
  · exact owns

/-- An initialisation is called for of a target that has been registered since the last one. -/
theorem call (owns : history.Owns registry tasks) (tracks : history.Tracks registry tasks)
    (numbered : registry.Numbered) (pledged : history.Pledged registry name) :
    (history.called (registry.generation? name)).Owns registry (tasks ++ [.spawned name]) := by
  obtain ⟨generation, current, unowned⟩ := pledged
  rw [current]
  exact {
    rooted := by
      intro origin member
      rcases List.mem_append.mp member with member | last
      · exact owns.rooted origin member
      · exact ⟨generation, List.mem_singleton.mp last, numbered.below name generation current⟩
    apart := by
      refine List.nodup_append.mpr ⟨owns.apart, by simp, ?_⟩
      rintro origin member last isLast rfl
      rw [List.mem_singleton.mp isLast] at member
      exact unowned member
    ahead := by
      intro caller other own stands hasOrigin found isThere
      rcases stands.of_append tracks.paired with ⟨rfl, same⟩ | stands
      · cases same
        rw [origin?_called_last] at hasOrigin
        rw [current] at isThere
        cases hasOrigin
        cases isThere
        exact Nat.le_refl _
      · rw [origin?_called _ _ (tracks.called caller stands.mem)] at hasOrigin
        exact owns.ahead caller other own stands hasOrigin found isThere
    later := by
      intro begun member own hasOrigin
      rw [origin?_called _ _ (tracks.begunCalled begun member)] at hasOrigin
      exact owns.later begun member own hasOrigin }

theorem leave (owns : history.Owns registry tasks) (tracks : history.Tracks registry tasks)
    (place : Nat) : (history.leaves place).Owns registry (tasks.eraseIdx place) where
  rooted := owns.rooted
  apart := owns.apart
  ahead := fun caller name own stands =>
    owns.ahead caller name own (stands.of_eraseIdx tracks.distinct).1
  later := owns.later

/-- An initialisation that has begun goes on. -/
theorem advance (owns : history.Owns registry tasks) (tracks : history.Tracks registry tasks)
    (behind : history.callers[place]? = some caller) (begun : next.seen?.isSome) :
    history.Owns registry (tasks.set place next) :=
  { owns with
    ahead := by
      intro other name own stands
      rcases stands.of_set tracks.distinct behind with ⟨_, rfl⟩ | ⟨_, stands⟩
      · cases begun
      · exact owns.ahead other name own stands }

theorem begin (owns : history.Owns registry tasks) (tracks : history.Tracks registry tasks)
    {seen : Registration} (behind : history.callers[place]? = some caller)
    (standing : tasks[place]? = some (.spawned name))
    (observed : registry.observe name = some seen) :
    (history.begins caller seen.generation).Owns registry (tasks.set place (.observed seen)) := by
  obtain ⟨_, current⟩ := Registry.observe_eq_some observed
  have advanced : history.Owns registry (tasks.set place (.observed seen)) :=
    owns.advance tracks behind rfl
  exact {
    rooted := advanced.rooted
    apart := advanced.apart
    ahead := advanced.ahead
    later := by
      intro begun member own hasOrigin
      rcases List.mem_append.mp member with member | last
      · exact owns.later begun member own hasOrigin
      · rw [List.mem_singleton.mp last] at hasOrigin ⊢
        exact owns.ahead caller name own ⟨place, behind, standing⟩ hasOrigin _ current }

/-- Whatever step an initialisation takes, every call keeps a registration of its own. -/
theorem init {state : Initialising} (owns : history.Owns state.registry state.tasks)
    (tracks : history.Tracks state.registry state.tasks) (step : InitStep) :
    (history.note state (.init step)).Owns (state.step step).registry (state.step step).tasks := by
  have stepped := history.stepped_note state tracks.paired step
  generalize history.note state (.init step) = noted, (state.step step).registry = registry,
    (state.step step).tasks = tasks at stepped ⊢
  cases stepped with
  | nothing => exact owns
  | leave place => exact owns.leave tracks place
  | begin behind standing observed => exact owns.begin tracks behind standing observed
  | connect behind standing =>
      exact ((owns.advance tracks behind rfl).marks _ _ _).succeed
        (.update Mark.connecting.apply_generation)
  | conclude behind standing => exact owns.advance tracks behind rfl
  | @finish _ _ _ ending behind standing =>
      exact ((owns.leave tracks _).marks _ _ _).succeed
        (.update (Mark.ended ending).apply_generation)

end Owns

end History

end Telemetry
