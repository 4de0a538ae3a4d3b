import Mathlib.Algebra.Group.Nat.Defs
import Telemetry.Proofs.Registry.Marking

/-!
The registry as a finite map. Whatever initialisations are on their way, its names and descriptors
are those of a plain map that the same additions and deletions drive. A refused call changes
nothing, an initialisation changes no more than how far its target has come, and each registration
has a number that none before it had.
-/

namespace Telemetry

open Initialising (Move)

namespace Registry

variable {registry : Registry}

/-- The descriptors under their names. -/
def descriptors (registry : Registry) : NameMap Target :=
  registry.entries.mapWithName fun _ entry => entry.target

@[simp] theorem get?_descriptors (registry : Registry) (name : String) :
    registry.descriptors.get? name = registry.target? name :=
  NameMap.get?_mapWithName _ registry.entries name

@[simp] theorem names_descriptors (registry : Registry) :
    registry.descriptors.names = registry.names :=
  NameMap.names_mapWithName _ registry.entries

@[simp] theorem size_descriptors (registry : Registry) :
    registry.descriptors.size = registry.count := by
  simp [descriptors, NameMap.size, NameMap.mapWithName, count]

theorem contains_descriptors (registry : Registry) (name : String) :
    registry.descriptors.contains name = (registry.entryAt? name).isSome := by
  rw [NameMap.contains, get?_descriptors, target?, Option.isSome_map]

end Registry

namespace Initialising

/-- What a map of descriptors makes of a move. Only additions and deletions concern it. -/
def Move.onMap (map : NameMap Target) : Move → NameMap Target
  | .add target =>
      if target.isDialable && !map.contains target.name then map.insert target.name target else map
  | .delete name => map.erase name
  | .call _ => map
  | .init _ => map
  | .signal _ => map

/-- What a caller is told by a map of descriptors. The address is looked at before the name. -/
def Move.answerOn (map : NameMap Target) : Move → Option (Except Error Unit)
  | .add target =>
      if !target.isDialable then
        some (.error (.target (.invalidAddress target.name target.address)))
      else if map.contains target.name then some (.error (.target (.alreadyExists target.name)))
      else some (.ok ())
  | .delete name =>
      if map.contains name then some (.ok ()) else some (.error (.target (.notFound name)))
  | .call _ => none
  | .init _ => none
  | .signal _ => none

def Move.isAdd : Move → Bool
  | .add _ => true
  | _ => false

/-- What the caller of an addition or a deletion is told. -/
def answer (state : Initialising) : Move → Option (Except Error Unit)
  | .add target => some (TargetRegistry.add target state.registry).1
  | .delete name => some (TargetRegistry.delete name state.registry).1
  | .call _ => none
  | .init _ => none
  | .signal _ => none

def after (dialing : Dialing) (moves : List Move) : Initialising :=
  moves.foldl move (empty dialing)

variable (state : Initialising)

/-- An addition goes well, or is refused and changes nothing. -/
theorem add_cases (target : Target) :
    (target.isDialable = true ∧ state.registry.entryAt? target.name = none ∧
      state.answer (.add target) = some (.ok ()) ∧
      state.move (.add target) = { state with registry := state.registry.registered target }) ∨
    ((target.isDialable = false ∨ (state.registry.entryAt? target.name).isSome) ∧
      ∃ reason, state.answer (.add target) = some (.error reason) ∧
        state.move (.add target) = state) := by
  have answered : state.answer (.add target) =
      some (state.registry.afterwards (state.registry.add target)).1 := rfl
  have moved : state.move (.add target) =
      { state with registry := (state.registry.afterwards (state.registry.add target)).2 } := rfl
  rw [answered, moved]
  rcases state.registry.afterwards_add_cases target with
    ⟨dialable, absent, answer⟩ | ⟨refused, reason, answer⟩
  · rw [answer]
    exact .inl ⟨dialable, absent, rfl, rfl⟩
  · rw [answer]
    exact .inr ⟨refused, reason, rfl, rfl⟩

/-- A deletion goes well, or is refused and changes nothing. -/
theorem delete_cases (name : String) :
    (name ∈ state.registry.names ∧ state.answer (.delete name) = some (.ok ()) ∧
      state.move (.delete name) = { state with registry := state.registry.unregistered name }) ∨
    (name ∉ state.registry.names ∧
      ∃ reason, state.answer (.delete name) = some (.error reason) ∧
        state.move (.delete name) = state) := by
  have answered : state.answer (.delete name) =
      some (state.registry.afterwards (state.registry.delete name)).1 := rfl
  have moved : state.move (.delete name) =
      { state with registry := (state.registry.afterwards (state.registry.delete name)).2 } := rfl
  rw [answered, moved]
  rcases state.registry.afterwards_delete_cases name with
    ⟨present, answer⟩ | ⟨absent, reason, answer⟩
  · rw [answer]
    exact .inl ⟨present, rfl, rfl⟩
  · rw [answer]
    exact .inr ⟨absent, reason, rfl, rfl⟩

variable {state} {next : Move}

theorem move_of_refused {reason : Error} (refused : state.answer next = some (.error reason)) :
    state.move next = state := by
  cases next with
  | add target =>
      rcases state.add_cases target with ⟨_, _, accepted, _⟩ | ⟨_, _, _, unchanged⟩
      · rw [accepted] at refused
        cases refused
      · exact unchanged
  | delete name =>
      rcases state.delete_cases name with ⟨_, accepted, _⟩ | ⟨_, _, _, unchanged⟩
      · rw [accepted] at refused
        cases refused
      · exact unchanged
  | call name => cases refused
  | init step => cases refused
  | signal given => cases refused

/-- The callers are told what the map of the descriptors tells them. -/
theorem answer_eq (state : Initialising) (next : Move) :
    state.answer next = next.answerOn state.registry.descriptors := by
  cases next with
  | add target =>
      change some (state.registry.afterwards (state.registry.add target)).1 = _
      rw [Move.answerOn, Registry.contains_descriptors]
      cases dialable : target.isDialable with
      | false => rw [Registry.add_of_not_dialable dialable]; rfl
      | true =>
          cases found : state.registry.entryAt? target.name with
          | none => rw [Registry.add_of_dialable dialable found]; rfl
          | some entry => rw [Registry.add_of_registered dialable found]; rfl
  | delete name =>
      change some (state.registry.afterwards (state.registry.delete name)).1 = _
      rw [Move.answerOn, Registry.contains_descriptors, Registry.delete]
      change some (state.registry.afterwards
        (if (state.registry.entryAt? name).isSome = true then _ else _)).1 = _
      split <;> rfl
  | call name => rfl
  | init step => rfl
  | signal given => rfl

theorem answer_add_iff {target : Target} : state.answer (.add target) = some (.ok ()) ↔
    target.isDialable = true ∧ target.name ∉ state.registry.names := by
  rw [Registry.mem_names]
  rcases state.add_cases target with ⟨dialable, absent, accepted, _⟩ | ⟨why, reason, refused, _⟩
  · simp [accepted, dialable, absent]
  · rw [refused]
    refine ⟨nofun, fun ⟨dialable, absent⟩ => ?_⟩
    rcases why with undialable | present
    · rw [dialable] at undialable
      cases undialable
    · exact absurd present absent

theorem answer_delete_iff {name : String} :
    state.answer (.delete name) = some (.ok ()) ↔ name ∈ state.registry.names := by
  rcases state.delete_cases name with ⟨present, accepted, _⟩ | ⟨absent, reason, refused, _⟩
  · simp [accepted, present]
  · simp [refused, absent]

/-- One move does to the descriptors what it does to a map of them. -/
theorem descriptors_move (state : Initialising) (next : Move) :
    (state.move next).registry.descriptors = next.onMap state.registry.descriptors := by
  cases next with
  | add target =>
      rw [Move.onMap, Registry.contains_descriptors]
      rcases state.add_cases target with ⟨dialable, absent, _, moved⟩ | ⟨why, _, _, unchanged⟩
      · rw [moved, if_pos (by simp [dialable, absent])]
        refine NameMap.ext_get? fun name => ?_
        rw [NameMap.get?_insert, Registry.get?_descriptors, Registry.get?_descriptors]
        exact Registry.target?_registered state.registry target name
      · have refused : ¬ (target.isDialable &&
            !(state.registry.entryAt? target.name).isSome) = true := by
          rcases why with undialable | present
          · simp [undialable]
          · simp [present]
        rw [unchanged, if_neg refused]
  | delete name =>
      refine NameMap.ext_get? fun other => ?_
      rw [Move.onMap, NameMap.get?_erase, Registry.get?_descriptors, Registry.get?_descriptors]
      exact Registry.target?_afterwards_delete state.registry name other
  | call name => rfl
  | init step =>
      refine NameMap.ext_get? fun name => ?_
      rw [Move.onMap, Registry.get?_descriptors, Registry.get?_descriptors]
      exact target?_step state step name
  | signal given => rfl

theorem descriptors_run (state : Initialising) (moves : List Move) :
    (moves.foldl move state).registry.descriptors =
      moves.foldl Move.onMap state.registry.descriptors := by
  induction moves generalizing state with
  | nil => rfl
  | cons first rest ih =>
      rw [List.foldl_cons, List.foldl_cons, ih (state.move first), descriptors_move]

theorem names_step (state : Initialising) (step : InitStep) :
    (state.step step).registry.names = state.registry.names := by
  have same : (state.step step).registry.descriptors = state.registry.descriptors :=
    descriptors_move state (.init step)
  rw [← Registry.names_descriptors, same, Registry.names_descriptors]

/-- An initialisation of a name that is not registered ends at once. -/
theorem proceed_of_unknown {place : Nat} {name : String}
    (standing : state.tasks[place]? = some (.spawned name))
    (unknown : name ∉ state.registry.names) :
    (state.proceed place).registry = state.registry ∧
      (state.proceed place).tasks = state.tasks.eraseIdx place ∧
      (state.proceed place).metrics = state.metrics := by
  have unseen : state.registry.observe name = none := by
    rw [Registry.mem_names, Option.not_isSome_iff_eq_none] at unknown
    exact Option.map_eq_none_iff.mpr unknown
  simp only [proceed, standing, unseen]
  exact ⟨rfl, rfl, rfl⟩

theorem succeeds_move (state : Initialising) (next : Move) :
    state.registry.Succeeds (state.move next).registry := by
  cases next with
  | add target => exact .add state.registry target
  | delete name => exact .delete state.registry name
  | call name => exact .refl _
  | init step =>
      change state.registry.Succeeds (state.step step).registry
      rcases state.step_registry_cases step with same | ⟨seen, mark, marked⟩
      · rw [same]
        exact .refl _
      · rw [marked]
        exact .update mark.apply_generation
  | signal given => exact .refl _

theorem nextGeneration_run (state : Initialising) (moves : List Move) :
    state.registry.nextGeneration ≤ (moves.foldl move state).registry.nextGeneration := by
  induction moves generalizing state with
  | nil => exact Nat.le_refl _
  | cons first rest ih => exact Nat.le_trans (succeeds_move state first).later (ih _)

theorem nextGeneration_move_le (state : Initialising) (next : Move) :
    (state.move next).registry.nextGeneration ≤
      state.registry.nextGeneration + if next.isAdd then 1 else 0 := by
  cases next with
  | add target =>
      rcases state.add_cases target with ⟨_, _, _, moved⟩ | ⟨_, _, _, unchanged⟩
      · rw [moved]
        exact Nat.le_refl _
      · rw [unchanged]
        exact Nat.le_add_right _ _
  | delete name =>
      rcases state.delete_cases name with ⟨_, _, moved⟩ | ⟨_, _, _, unchanged⟩
      · rw [moved]
        exact Nat.le_refl _
      · rw [unchanged]
        exact Nat.le_refl _
  | call name => exact Nat.le_refl _
  | init step =>
      change (state.step step).registry.nextGeneration ≤ _
      rcases state.step_registry_cases step with same | ⟨seen, mark, marked⟩
      · rw [same]
        exact Nat.le_refl _
      · rw [marked, Registry.nextGeneration_update]
        exact Nat.le_refl _
  | signal given => exact Nat.le_refl _

/-- No more numbers are given than additions are called for. -/
theorem nextGeneration_after_le (dialing : Dialing) (moves : List Move) :
    (after dialing moves).registry.nextGeneration ≤ moves.countP Move.isAdd := by
  induction moves using List.reverseRecOn with
  | nil => exact Nat.le_refl 0
  | append_singleton earlier last ih =>
      rw [after, List.foldl_append, List.countP_append, List.countP_singleton]
      exact Nat.le_trans (nextGeneration_move_le _ last) (Nat.add_le_add_right ih _)

theorem after_numbered (dialing : Dialing) (moves : List Move) :
    (after dialing moves).registry.Numbered := by
  have sound := (Recorded.run_sound dialing moves).numbered
  rwa [Recorded.run_state] at sound

/-- The number that is given next is above all that ever were under a name. -/
theorem generation_lt_of_prefix (dialing : Dialing) {earlier moves : List Move}
    (before : earlier <+: moves) {name : String} {old : Entry}
    (found : (after dialing earlier).registry.entryAt? name = some old) :
    old.generation < (after dialing moves).registry.nextGeneration := by
  obtain ⟨later, rfl⟩ := before
  have below := (after_numbered dialing earlier).below name old.generation
    (by rw [Registry.generation?, found]; rfl)
  refine Nat.lt_of_lt_of_le below ?_
  rw [after, after, List.foldl_append]
  exact nextGeneration_run _ later

theorem ofNat_ne_of_lt {first second : Nat} (ordered : first < second) (bound : second < 2 ^ 64) :
    UInt64.ofNat first ≠ UInt64.ofNat second := by
  intro same
  have values := congrArg UInt64.toNat same
  rw [UInt64.toNat_ofNat_of_lt' bound, UInt64.toNat_ofNat_of_lt' (Nat.lt_trans ordered bound)]
    at values
  exact Nat.ne_of_lt ordered values

/-- However additions, deletions and steps of initialisations come after each other, the registry
is the map of descriptors that the additions and deletions make, to its callers as well as to those
who look. What comes next is refused without a trace, or does to the entries no more than it is
for; the number of a new registration is new, also as a word of 64 bits as long as there were fewer
than 2^64 additions. -/
theorem registry_refines_map (dialing : Dialing) (moves : List Move) (next : Move) :
    let before := after dialing moves
    let map := moves.foldl Move.onMap NameMap.empty
    (before.registry.names = map.names ∧ before.registry.count = map.size ∧
      ∀ name, before.registry.target? name = map.get? name) ∧
    before.answer next = next.answerOn map ∧
    (∀ target, before.answer (.add target) = some (.ok ()) ↔
      target.isDialable = true ∧ target.name ∉ map.names) ∧
    (∀ name, before.answer (.delete name) = some (.ok ()) ↔ name ∈ map.names) ∧
    (∀ reason, before.answer next = some (.error reason) → before.move next = before) ∧
    (∀ name, next = .delete name → before.answer next = some (.ok ()) →
      ∀ other, (before.move next).registry.entryAt? other =
        if other = name then none else before.registry.entryAt? other) ∧
    (∀ step, next = .init step → (before.move next).registry.names = before.registry.names ∧
      ∀ name, (before.move next).registry.target? name = before.registry.target? name) ∧
    (∀ place name, next = .init (.proceed place) →
      before.tasks[place]? = some (.spawned name) → name ∉ map.names →
      (before.move next).registry = before.registry ∧
      (before.move next).tasks = before.tasks.eraseIdx place ∧
      (before.move next).metrics = before.metrics) ∧
    (∀ target, next = .add target → before.answer next = some (.ok ()) →
      ∃ generation,
        (∀ other, (before.move next).registry.entryAt? other =
          if other = target.name then some ⟨target, .pending, none, generation⟩
          else before.registry.entryAt? other) ∧
        ∀ earlier, earlier <+: moves →
          ∀ name old, (after dialing earlier).registry.entryAt? name = some old →
            old.generation < generation ∧
            (moves.countP Move.isAdd < 2 ^ 64 →
              UInt64.ofNat old.generation ≠ UInt64.ofNat generation)) := by
  intro before map
  have shown : before.registry.descriptors = map := descriptors_run (empty dialing) moves
  have names : before.registry.names = map.names := by
    rw [← shown, Registry.names_descriptors]
  refine ⟨⟨names, ?_, fun name => ?_⟩, ?_, fun target => ?_, fun name => ?_, ?_, ?_, ?_, ?_, ?_⟩
  · rw [← shown, Registry.size_descriptors]
  · rw [← shown, Registry.get?_descriptors]
  · rw [← shown]
    exact answer_eq before next
  · rw [← names]
    exact answer_add_iff
  · rw [← names]
    exact answer_delete_iff
  · exact fun reason refused => move_of_refused refused
  · rintro name rfl accepted other
    rcases before.delete_cases name with ⟨_, _, moved⟩ | ⟨_, _, refused, _⟩
    · rw [moved]
      exact Registry.entryAt?_unregistered before.registry name other
    · rw [refused] at accepted
      cases accepted
  · rintro step rfl
    exact ⟨names_step before step, target?_step before step⟩
  · rintro place name rfl standing unknown
    exact proceed_of_unknown standing (names ▸ unknown)
  · rintro target rfl accepted
    refine ⟨before.registry.nextGeneration, fun other => ?_, ?_⟩
    · rcases before.add_cases target with ⟨_, _, _, moved⟩ | ⟨_, _, refused, _⟩
      · rw [moved]
        exact Registry.entryAt?_registered before.registry target other
      · rw [refused] at accepted
        cases accepted
    · intro earlier isEarlier name old found
      have below := generation_lt_of_prefix dialing isEarlier found
      exact ⟨below, fun few => ofNat_ne_of_lt below
        (Nat.lt_of_le_of_lt (nextGeneration_after_le dialing moves) few)⟩

end Initialising

end Telemetry
