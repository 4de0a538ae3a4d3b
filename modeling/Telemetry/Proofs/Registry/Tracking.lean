import Telemetry.Proofs.Registry.History

/-!
Bookkeeping along every run: numbers of registrations are given once, and each initialisation that
has not ended stands for one call, which begins once and finds one registration.
-/

namespace Telemetry

/-- The call is behind an initialisation that has not ended and that is at the task. -/
def Stands (callers : List Nat) (tasks : List InitTask) (caller : Nat) (task : InitTask) : Prop :=
  ∃ place : Nat, callers[place]? = some caller ∧ tasks[place]? = some task

namespace Stands

variable {callers : List Nat} {tasks : List InitTask} {caller behind place : Nat}
  {task other : InitTask}

theorem mem (stands : Stands callers tasks caller task) : caller ∈ callers := by
  obtain ⟨place, found, _⟩ := stands
  exact List.mem_of_getElem? found

theorem of_set (distinct : callers.Nodup) (atPlace : callers[place]? = some behind)
    (stands : Stands callers (tasks.set place other) caller task) :
    (caller = behind ∧ task = other) ∨ (caller ≠ behind ∧ Stands callers tasks caller task) := by
  obtain ⟨index, found, standing⟩ := stands
  by_cases same : place = index
  · subst same
    rw [atPlace] at found
    rw [List.getElem?_set_self'] at standing
    obtain ⟨_, _, rfl⟩ := Option.map_eq_some_iff.mp standing
    exact .inl ⟨(Option.some.inj found).symm, rfl⟩
  · rw [List.getElem?_set_ne same] at standing
    refine .inr ⟨?_, index, found, standing⟩
    rintro rfl
    obtain ⟨inside, _⟩ := List.getElem?_eq_some_iff.mp atPlace
    exact same ((List.getElem?_inj inside distinct).mp (atPlace.trans found.symm))

theorem of_eraseIdx (distinct : callers.Nodup)
    (stands : Stands (callers.eraseIdx place) (tasks.eraseIdx place) caller task) :
    Stands callers tasks caller task ∧ callers[place]? ≠ some caller := by
  obtain ⟨index, found, standing⟩ := stands
  rw [List.getElem?_eraseIdx] at found standing
  have elsewhere : ∃ former, former ≠ place ∧ callers[former]? = some caller ∧
      tasks[former]? = some task := by
    by_cases before : index < place
    · rw [if_pos before] at found standing
      exact ⟨index, by omega, found, standing⟩
    · rw [if_neg before] at found standing
      exact ⟨index + 1, by omega, found, standing⟩
  obtain ⟨former, distinctPlace, found, standing⟩ := elsewhere
  refine ⟨⟨former, found, standing⟩, fun atPlace => distinctPlace ?_⟩
  obtain ⟨inside, _⟩ := List.getElem?_eq_some_iff.mp found
  exact (List.getElem?_inj inside distinct).mp (found.trans atPlace.symm)

theorem of_append (paired : callers.length = tasks.length)
    (stands : Stands (callers ++ [behind]) (tasks ++ [other]) caller task) :
    (caller = behind ∧ task = other) ∨ Stands callers tasks caller task := by
  obtain ⟨index, found, standing⟩ := stands
  by_cases inside : index < callers.length
  · rw [List.getElem?_append_left inside] at found
    rw [List.getElem?_append_left (paired ▸ inside)] at standing
    exact .inr ⟨index, found, standing⟩
  · rw [List.getElem?_append_right (by omega), List.getElem?_singleton] at found standing
    rw [paired] at found
    split at found
    · rename_i last
      rw [if_pos last] at standing
      cases found
      cases standing
      exact .inl ⟨rfl, rfl⟩
    · cases found

end Stands

namespace Registry

/-- The numbers under names are below the next one, and no two names have the same. -/
structure Numbered (registry : Registry) : Prop where
  below : ∀ name generation, registry.generation? name = some generation →
    generation < registry.nextGeneration
  single : ∀ first second generation, registry.generation? first = some generation →
    registry.generation? second = some generation → first = second

/-- What is registered afterwards was registered before, or has a number that is new. -/
structure Succeeds (before after : Registry) : Prop where
  later : before.nextGeneration ≤ after.nextGeneration
  kept : ∀ name generation, after.generation? name = some generation →
    before.generation? name = some generation ∨ before.nextGeneration ≤ generation

variable {registry after : Registry} {name : String} {generation : Nat} {change : Entry → Entry}

theorem generation?_registered (registry : Registry) (target : Target) (name : String) :
    (registry.registered target).generation? name =
      if name = target.name then some registry.nextGeneration else registry.generation? name := by
  rw [generation?, entryAt?_registered]
  split <;> rfl

theorem generation?_unregistered (registry : Registry) (name other : String) :
    (registry.unregistered name).generation? other =
      if other = name then none else registry.generation? other := by
  rw [generation?, entryAt?_unregistered]
  split <;> rfl

theorem Succeeds.refl (registry : Registry) : registry.Succeeds registry :=
  ⟨Nat.le_refl _, fun _ _ found => .inl found⟩

theorem Succeeds.registered (registry : Registry) (target : Target) :
    registry.Succeeds (registry.registered target) := by
  refine ⟨Nat.le_succ _, ?_⟩
  intro name generation found
  rw [generation?_registered] at found
  split at found
  · cases found
    exact .inr (Nat.le_refl _)
  · exact .inl found

theorem Succeeds.unregistered (registry : Registry) (name : String) :
    registry.Succeeds (registry.unregistered name) := by
  refine ⟨Nat.le_refl _, ?_⟩
  intro other generation found
  rw [generation?_unregistered] at found
  split at found
  · cases found
  · exact .inl found

theorem Succeeds.update (keeps : ∀ entry, (change entry).generation = entry.generation) :
    registry.Succeeds (registry.update name generation change) := by
  refine ⟨Nat.le_of_eq nextGeneration_update.symm, ?_⟩
  intro other number found
  rw [generation?_update keeps] at found
  exact .inl found

theorem Succeeds.add (registry : Registry) (target : Target) :
    registry.Succeeds (registry.afterwards (registry.add target)).2 := by
  rcases registry.afterwards_add_cases target with ⟨_, _, answer⟩ | ⟨_, reason, answer⟩
  · rw [answer]
    exact .registered registry target
  · rw [answer]
    exact .refl registry

theorem Succeeds.delete (registry : Registry) (name : String) :
    registry.Succeeds (registry.afterwards (registry.delete name)).2 := by
  rcases registry.afterwards_delete_cases name with ⟨_, answer⟩ | ⟨_, reason, answer⟩
  · rw [answer]
    exact .unregistered registry name
  · rw [answer]
    exact .refl registry

theorem Numbered.empty (dialing : Dialing) : (Registry.empty dialing).Numbered :=
  ⟨fun _ _ found => (by cases found), fun _ _ _ found => (by cases found)⟩

theorem Numbered.registered (numbered : registry.Numbered) (target : Target) :
    (registry.registered target).Numbered := by
  refine ⟨?_, ?_⟩
  · intro name generation found
    rw [generation?_registered] at found
    split at found
    · cases found
      exact Nat.lt_succ_self _
    · exact Nat.lt_succ_of_lt (numbered.below name generation found)
  · intro first second generation foundFirst foundSecond
    rw [generation?_registered] at foundFirst foundSecond
    split at foundFirst <;> rename_i isFirst <;> split at foundSecond <;> rename_i isSecond
    · exact isFirst.trans isSecond.symm
    · cases foundFirst
      exact absurd (numbered.below second _ foundSecond) (Nat.lt_irrefl _)
    · cases foundSecond
      exact absurd (numbered.below first _ foundFirst) (Nat.lt_irrefl _)
    · exact numbered.single first second generation foundFirst foundSecond

theorem Numbered.unregistered (numbered : registry.Numbered) (name : String) :
    (registry.unregistered name).Numbered := by
  have stays : ∀ other generation,
      (registry.unregistered name).generation? other = some generation →
        registry.generation? other = some generation := by
    intro other generation found
    rw [generation?_unregistered] at found
    split at found
    · cases found
    · exact found
  exact ⟨fun other generation found => numbered.below other generation (stays _ _ found),
    fun first second generation foundFirst foundSecond =>
      numbered.single first second generation (stays _ _ foundFirst) (stays _ _ foundSecond)⟩

theorem Numbered.update (numbered : registry.Numbered)
    (keeps : ∀ entry, (change entry).generation = entry.generation) :
    (registry.update name generation change).Numbered := by
  refine ⟨?_, ?_⟩
  · intro other number found
    rw [generation?_update keeps] at found
    rw [nextGeneration_update]
    exact numbered.below other number found
  · intro first second number foundFirst foundSecond
    rw [generation?_update keeps] at foundFirst foundSecond
    exact numbered.single first second number foundFirst foundSecond

end Registry

namespace History

/-- What a step of an initialisation can do to the registry, to the initialisations and to their
history. -/
inductive Stepped (history : History) (registry : Registry) (tasks : List InitTask) :
    History → Registry → List InitTask → Prop where
  | nothing : Stepped history registry tasks history registry tasks
  | leave (place : Nat) :
      Stepped history registry tasks (history.leaves place) registry (tasks.eraseIdx place)
  | begin {place caller : Nat} {name : String} {seen : Registration}
      (behind : history.callers[place]? = some caller)
      (standing : tasks[place]? = some (.spawned name))
      (observed : registry.observe name = some seen) :
      Stepped history registry tasks (history.begins caller seen.generation) registry
        (tasks.set place (.observed seen))
  | connect {place caller : Nat} {seen : Registration}
      (behind : history.callers[place]? = some caller)
      (standing : tasks[place]? = some (.observed seen)) :
      Stepped history registry tasks (history.marks registry caller seen .connecting)
        (registry.markConnecting seen) (tasks.set place (.connecting seen))
  | conclude {place caller : Nat} {seen : Registration} {ending : Ending}
      (behind : history.callers[place]? = some caller)
      (standing : tasks[place]? = some (.connecting seen)) :
      Stepped history registry tasks history registry (tasks.set place (.concluded seen ending))
  | finish {place caller : Nat} {seen : Registration} {ending : Ending}
      (behind : history.callers[place]? = some caller)
      (standing : tasks[place]? = some (.concluded seen ending)) :
      Stepped history registry tasks
        ((history.leaves place).marks registry caller seen (.ended ending))
        (registry.record seen ending) (tasks.eraseIdx place)

theorem stepped_note (history : History) (state : Initialising)
    (paired : history.callers.length = state.tasks.length) (step : InitStep) :
    history.Stepped state.registry state.tasks (history.note state (.init step))
      (state.step step).registry (state.step step).tasks := by
  have behindTask : ∀ {place : Nat} {task : InitTask}, state.tasks[place]? = some task →
      ∃ caller, history.callers[place]? = some caller := by
    intro place task standing
    obtain ⟨inside, _⟩ := List.getElem?_eq_some_iff.mp standing
    exact ⟨_, List.getElem?_eq_getElem (paired.symm ▸ inside)⟩
  cases step with
  | abandon place => exact .leave place
  | conclude place ending =>
      change history.Stepped _ _ history (state.conclude place ending).registry
        (state.conclude place ending).tasks
      unfold Initialising.conclude
      split
      · rename_i seen standing
        obtain ⟨caller, behind⟩ := behindTask standing
        split
        · exact .conclude behind standing
        · exact .nothing
      · exact .nothing
  | proceed place =>
      change history.Stepped _ _ (history.proceeds state place) (state.proceed place).registry
        (state.proceed place).tasks
      cases standing : state.tasks[place]? with
      | none =>
          have nobody : history.callers[place]? = none := by
            rw [List.getElem?_eq_none_iff] at standing ⊢
            rw [paired]
            exact standing
          simp only [proceeds, Initialising.proceed, standing, nobody]
          exact .nothing
      | some task =>
          obtain ⟨caller, behind⟩ := behindTask standing
          cases task with
          | spawned name =>
              cases observed : state.registry.observe name with
              | none =>
                  simp only [proceeds, Initialising.proceed, standing, behind, observed]
                  exact .leave place
              | some seen =>
                  simp only [proceeds, Initialising.proceed, standing, behind, observed]
                  exact .begin behind standing observed
          | observed seen =>
              simp only [proceeds, Initialising.proceed, standing, behind]
              exact .connect behind standing
          | connecting seen =>
              simp only [proceeds, Initialising.proceed, standing, behind]
              exact .nothing
          | concluded seen ending =>
              simp only [proceeds, Initialising.proceed, standing, behind]
              exact .finish behind standing

/-- Each initialisation that has not ended stands for a call of its own, and what it has seen is
what its call is noted to have found. -/
structure Tracks (history : History) (registry : Registry) (tasks : List InitTask) : Prop where
  paired : history.callers.length = tasks.length
  distinct : history.callers.Nodup
  called : ∀ caller ∈ history.callers, caller < history.origins.length
  begunCalled : ∀ begun ∈ history.begun, begun.1 < history.origins.length
  once : (history.begun.map (·.1)).Nodup
  waits : ∀ caller name, Stands history.callers tasks caller (.spawned name) →
    ∀ begun ∈ history.begun, begun.1 ≠ caller
  found : ∀ caller task seen, Stands history.callers tasks caller task → task.seen? = some seen →
    (caller, seen.generation) ∈ history.begun
  named : ∀ caller task seen name, Stands history.callers tasks caller task →
    task.seen? = some seen → registry.generation? name = some seen.generation → name = seen.name
  begunBelow : ∀ begun ∈ history.begun, begun.2 < registry.nextGeneration

namespace Tracks

variable {history : History} {registry after : Registry} {tasks : List InitTask}
  {caller place : Nat} {task next : InitTask}

theorem empty (registry : Registry) : History.empty.Tracks registry [] where
  paired := rfl
  distinct := List.nodup_nil
  called := by intro caller member; cases member
  begunCalled := by intro begun member; cases member
  once := List.nodup_nil
  waits := by intro caller name stands; cases stands.mem
  found := by intro caller task seen stands; cases stands.mem
  named := by intro caller task seen name stands; cases stands.mem
  begunBelow := by intro begun member; cases member

theorem succeed (tracks : history.Tracks registry tasks) (succeeds : registry.Succeeds after) :
    history.Tracks after tasks :=
  { tracks with
    named := by
      intro caller task seen name stands hasSeen current
      rcases succeeds.kept name _ current with before | new
      · exact tracks.named caller task seen name stands hasSeen before
      · have old := tracks.begunBelow _ (tracks.found caller task seen stands hasSeen)
        exact absurd old (Nat.not_lt.mpr new)
    begunBelow := fun begun member =>
      Nat.lt_of_lt_of_le (tracks.begunBelow begun member) succeeds.later }

theorem call (tracks : history.Tracks registry tasks) (origin : Option Nat) (name : String) :
    (history.called origin).Tracks registry (tasks ++ [.spawned name]) where
  paired := by simp [History.called, tracks.paired]
  distinct := by
    refine List.nodup_append.mpr ⟨tracks.distinct, by simp, ?_⟩
    intro caller member fresh last
    rw [List.mem_singleton.mp last]
    exact Nat.ne_of_lt (tracks.called caller member)
  called := by
    intro caller member
    simp only [History.called, List.length_append, List.length_singleton]
    rcases List.mem_append.mp member with member | last
    · exact Nat.lt_succ_of_lt (tracks.called caller member)
    · rw [List.mem_singleton.mp last]
      exact Nat.lt_succ_self _
  begunCalled := by
    intro begun member
    simp only [History.called, List.length_append, List.length_singleton]
    exact Nat.lt_succ_of_lt (tracks.begunCalled begun member)
  once := tracks.once
  waits := by
    intro caller other stands begun member
    rcases stands.of_append tracks.paired with ⟨rfl, _⟩ | stands
    · exact Nat.ne_of_lt (tracks.begunCalled begun member)
    · exact tracks.waits caller other stands begun member
  found := by
    intro caller task seen stands hasSeen
    rcases stands.of_append tracks.paired with ⟨_, rfl⟩ | stands
    · cases hasSeen
    · exact tracks.found caller task seen stands hasSeen
  named := by
    intro caller task seen other stands hasSeen
    rcases stands.of_append tracks.paired with ⟨_, rfl⟩ | stands
    · cases hasSeen
    · exact tracks.named caller task seen other stands hasSeen
  begunBelow := tracks.begunBelow

theorem leave (tracks : history.Tracks registry tasks) (place : Nat) :
    (history.leaves place).Tracks registry (tasks.eraseIdx place) where
  paired := by simp [History.leaves, List.length_eraseIdx, tracks.paired]
  distinct := tracks.distinct.eraseIdx place
  called := fun caller member => tracks.called caller (List.mem_of_mem_eraseIdx member)
  begunCalled := tracks.begunCalled
  once := tracks.once
  waits := fun caller name stands =>
    tracks.waits caller name (stands.of_eraseIdx tracks.distinct).1
  found := fun caller task seen stands =>
    tracks.found caller task seen (stands.of_eraseIdx tracks.distinct).1
  named := fun caller task seen name stands =>
    tracks.named caller task seen name (stands.of_eraseIdx tracks.distinct).1
  begunBelow := tracks.begunBelow

theorem marks (tracks : history.Tracks registry tasks) (caller : Nat) (seen : Registration)
    (mark : Mark) : (history.marks registry caller seen mark).Tracks registry tasks := by
  unfold History.marks
  split
  · exact { tracks with }
  · exact tracks

/-- An initialisation that has begun goes on with what it has seen. -/
theorem advance (tracks : history.Tracks registry tasks)
    (behind : history.callers[place]? = some caller) (standing : tasks[place]? = some task)
    (begun : task.seen?.isSome) (same : next.seen? = task.seen?) :
    history.Tracks registry (tasks.set place next) :=
  { tracks with
    paired := by rw [List.length_set]; exact tracks.paired
    waits := by
      intro other name stands
      rcases stands.of_set tracks.distinct behind with ⟨_, rfl⟩ | ⟨_, stands⟩
      · rw [← same] at begun
        cases begun
      · exact tracks.waits other name stands
    found := by
      intro other task seen stands hasSeen
      rcases stands.of_set tracks.distinct behind with ⟨rfl, rfl⟩ | ⟨_, stands⟩
      · exact tracks.found other _ seen ⟨place, behind, standing⟩ (same ▸ hasSeen)
      · exact tracks.found other task seen stands hasSeen
    named := by
      intro other task seen name stands hasSeen
      rcases stands.of_set tracks.distinct behind with ⟨rfl, rfl⟩ | ⟨_, stands⟩
      · exact tracks.named other _ seen name ⟨place, behind, standing⟩ (same ▸ hasSeen)
      · exact tracks.named other task seen name stands hasSeen }

theorem begin (tracks : history.Tracks registry tasks) (numbered : registry.Numbered)
    {name : String} {seen : Registration} (behind : history.callers[place]? = some caller)
    (standing : tasks[place]? = some (.spawned name))
    (observed : registry.observe name = some seen) :
    (history.begins caller seen.generation).Tracks registry
      (tasks.set place (.observed seen)) := by
  obtain ⟨sameName, current⟩ := Registry.observe_eq_some observed
  have notBegun := tracks.waits caller name ⟨place, behind, standing⟩
  exact {
    paired := by rw [List.length_set]; exact tracks.paired
    distinct := tracks.distinct
    called := tracks.called
    begunCalled := by
      intro begun member
      rcases List.mem_append.mp member with member | last
      · exact tracks.begunCalled begun member
      · rw [List.mem_singleton.mp last]
        exact tracks.called caller (List.mem_of_getElem? behind)
    once := by
      simp only [History.begins, List.map_append, List.map_cons, List.map_nil]
      refine List.nodup_append.mpr ⟨tracks.once, by simp, ?_⟩
      intro first inFirsts second last
      obtain ⟨begun, member, rfl⟩ := List.mem_map.mp inFirsts
      rw [List.mem_singleton.mp last]
      exact notBegun begun member
    waits := by
      intro other otherName stands begun member
      rcases stands.of_set tracks.distinct behind with ⟨_, impossible⟩ | ⟨distinct, stands⟩
      · cases impossible
      · rcases List.mem_append.mp member with member | last
        · exact tracks.waits other otherName stands begun member
        · rw [List.mem_singleton.mp last]
          exact distinct.symm
    found := by
      intro other task otherSeen stands hasSeen
      rcases stands.of_set tracks.distinct behind with ⟨rfl, rfl⟩ | ⟨_, stands⟩
      · cases hasSeen
        exact List.mem_append_right _ (List.mem_singleton_self _)
      · exact List.mem_append_left _ (tracks.found other task otherSeen stands hasSeen)
    named := by
      intro other task otherSeen otherName stands hasSeen sameNumber
      rcases stands.of_set tracks.distinct behind with ⟨rfl, rfl⟩ | ⟨_, stands⟩
      · cases hasSeen
        rw [sameName]
        exact numbered.single otherName name seen.generation sameNumber current
      · exact tracks.named other task otherSeen otherName stands hasSeen sameNumber
    begunBelow := by
      intro begun member
      rcases List.mem_append.mp member with member | last
      · exact tracks.begunBelow begun member
      · rw [List.mem_singleton.mp last]
        exact numbered.below name seen.generation current }

end Tracks

end History

end Telemetry
