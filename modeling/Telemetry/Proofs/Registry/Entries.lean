import Telemetry.Proofs.NameMap
import Telemetry.Registry.Basic

/-!
What the operations of the registry do to the entry that is found under a name. A name has one
entry at most, every entry has a number below the next one, and only a change of the registration
of that very number reaches it.
-/

namespace Telemetry.Registry

variable {registry after : Registry} {target : Target} {name other : String} {generation : Nat}
  {change : Entry → Entry} {entry : Entry}

/-- The entry under a name. -/
def entryAt? (registry : Registry) (name : String) : Option Entry := registry.entries.get? name

/-- The number of the registration under a name. -/
def generation? (registry : Registry) (name : String) : Option Nat :=
  (registry.entryAt? name).map Entry.generation

/-- The descriptor registered under a name. -/
def target? (registry : Registry) (name : String) : Option Target :=
  (registry.entryAt? name).map Entry.target

/-- The registry with one more registration. -/
def registered (registry : Registry) (target : Target) : Registry :=
  { registry with
    entries := registry.entries.insert target.name (Entry.start target registry.nextGeneration)
    nextGeneration := registry.nextGeneration + 1 }

/-- The registry without the registration under a name. -/
def unregistered (registry : Registry) (name : String) : Registry :=
  { registry with entries := registry.entries.erase name }

theorem mem_names : name ∈ registry.names ↔ (registry.entryAt? name).isSome := NameMap.mem_names

theorem mem_names_iff_target? :
    name ∈ registry.names ↔ (registry.target? name).isSome := by
  rw [mem_names, target?, Option.isSome_map]

theorem target?_eq_none_iff : registry.target? name = none ↔ name ∉ registry.names := by
  rw [mem_names_iff_target?, Option.not_isSome_iff_eq_none]

theorem add_of_dialable (dialable : target.isDialable = true)
    (absent : registry.entryAt? target.name = none) :
    registry.add target = .ok (registry.registered target) := by
  have unnamed : registry.entries.contains target.name = false := by
    rw [NameMap.contains]
    exact Option.isSome_eq_false_iff.mpr (Option.isNone_iff_eq_none.mpr absent)
  rw [add, Target.checkAddress, if_pos dialable]
  simp only [unnamed, Bool.false_eq_true, if_false]
  rfl

theorem add_of_not_dialable (refused : target.isDialable = false) :
    registry.add target = .error (.invalidAddress target.name target.address) := by
  rw [add, Target.checkAddress, if_neg (by simp [refused])]

theorem add_of_registered (dialable : target.isDialable = true)
    (present : registry.entryAt? target.name = some entry) :
    registry.add target = .error (.alreadyExists target.name) := by
  have named : registry.entries.contains target.name = true := by
    rw [NameMap.contains]
    exact Option.isSome_iff_exists.mpr ⟨entry, present⟩
  rw [add, Target.checkAddress, if_pos dialable]
  simp only [named, if_true]

theorem delete_ok_iff :
    registry.delete name = .ok after ↔
      name ∈ registry.names ∧ after = registry.unregistered name := by
  rw [mem_names]
  by_cases present : (registry.entryAt? name).isSome
  · have named : registry.entries.contains name = true := present
    simp only [delete, named, if_true, Except.ok.injEq, present, true_and]
    exact eq_comm
  · have unnamed : registry.entries.contains name = false := Bool.eq_false_iff.mpr present
    simp [delete, unnamed, present]

/-- What an addition answers and leaves behind. -/
theorem afterwards_add_cases (registry : Registry) (target : Target) :
    (target.isDialable = true ∧ registry.entryAt? target.name = none ∧
      registry.afterwards (registry.add target) = (.ok (), registry.registered target)) ∨
    ((target.isDialable = false ∨ (registry.entryAt? target.name).isSome) ∧
      ∃ reason, registry.afterwards (registry.add target) = (.error reason, registry)) := by
  cases dialable : target.isDialable with
  | false =>
      exact .inr ⟨.inl rfl, _, by rw [add_of_not_dialable dialable, afterwards]⟩
  | true =>
      cases found : registry.entryAt? target.name with
      | none => exact .inl ⟨rfl, rfl, by rw [add_of_dialable dialable found, afterwards]⟩
      | some entry => exact .inr ⟨.inr rfl, _, by rw [add_of_registered dialable found, afterwards]⟩

/-- What a deletion answers and leaves behind. -/
theorem afterwards_delete_cases (registry : Registry) (name : String) :
    (name ∈ registry.names ∧
      registry.afterwards (registry.delete name) = (.ok (), registry.unregistered name)) ∨
    (name ∉ registry.names ∧
      ∃ reason, registry.afterwards (registry.delete name) = (.error reason, registry)) := by
  cases deleted : registry.delete name with
  | ok after =>
      obtain ⟨present, rfl⟩ := delete_ok_iff.mp deleted
      exact .inl ⟨present, by rw [afterwards]⟩
  | error reason =>
      refine .inr ⟨fun present => ?_, .target reason, by rw [afterwards]⟩
      rw [delete_ok_iff.mpr ⟨present, rfl⟩] at deleted
      cases deleted

theorem entryAt?_registered (registry : Registry) (target : Target) (name : String) :
    (registry.registered target).entryAt? name =
      if name = target.name then some (Entry.start target registry.nextGeneration)
      else registry.entryAt? name :=
  NameMap.get?_insert registry.entries target.name name _

theorem entryAt?_unregistered (registry : Registry) (name other : String) :
    (registry.unregistered name).entryAt? other =
      if other = name then none else registry.entryAt? other :=
  NameMap.get?_erase registry.entries name other

theorem target?_registered (registry : Registry) (target : Target) (name : String) :
    (registry.registered target).target? name =
      if name = target.name then some target else registry.target? name := by
  rw [target?, entryAt?_registered]
  split <;> rfl

theorem target?_unregistered (registry : Registry) (name other : String) :
    (registry.unregistered name).target? other =
      if other = name then none else registry.target? other := by
  rw [target?, entryAt?_unregistered]
  split <;> rfl

/-- Whether a deletion goes well or not, the name is gone, and no other one. -/
theorem target?_afterwards_delete (registry : Registry) (name other : String) :
    (registry.afterwards (registry.delete name)).2.target? other =
      if other = name then none else registry.target? other := by
  rcases registry.afterwards_delete_cases name with ⟨_, answer⟩ | ⟨absent, _, answer⟩
  · rw [answer, target?_unregistered]
  · rw [answer]
    split
    · rename_i same
      rw [same, target?_eq_none_iff.mpr absent]
    · rfl

theorem mem_names_registered :
    name ∈ (registry.registered target).names ↔ name = target.name ∨ name ∈ registry.names :=
  NameMap.mem_names_insert

theorem mem_names_unregistered :
    other ∈ (registry.unregistered name).names ↔ other ∈ registry.names ∧ other ≠ name :=
  NameMap.mem_names_erase

/-- A change reaches the entry under its name if that has its number, and nothing else. -/
theorem entryAt?_update (registry : Registry) (name other : String) (generation : Nat)
    (change : Entry → Entry) :
    (registry.update name generation change).entryAt? other =
      if other = name then
        (registry.entryAt? name).map fun entry =>
          if entry.generation = generation then change entry else entry
      else registry.entryAt? other := by
  cases found : registry.entryAt? name with
  | none =>
      have unchanged : registry.update name generation change = registry := by
        have lookup : registry.entries.get? name = none := found
        simp only [update, lookup]
      rw [unchanged]
      by_cases same : other = name
      · simp [same, found]
      · simp [same]
  | some entry =>
      have lookup : registry.entries.get? name = some entry := found
      by_cases current : entry.generation = generation
      · have changed : registry.update name generation change =
            { registry with entries := registry.entries.insert name (change entry) } := by
          simp only [update, lookup, if_pos current]
        rw [changed, entryAt?, NameMap.get?_insert]
        by_cases same : other = name
        · simp [same, current]
        · simp only [if_neg same]
          rfl
      · have unchanged : registry.update name generation change = registry := by
          simp only [update, lookup, if_neg current]
        rw [unchanged]
        by_cases same : other = name
        · simp [same, found, current]
        · simp [same]

@[simp] theorem nextGeneration_update :
    (registry.update name generation change).nextGeneration = registry.nextGeneration := by
  unfold update
  split
  · split <;> rfl
  · rfl

theorem mem_names_update :
    other ∈ (registry.update name generation change).names ↔ other ∈ registry.names := by
  rw [mem_names, mem_names, entryAt?_update]
  by_cases same : other = name
  · simp [same]
  · simp [same]

/-- A change that keeps the number of the entry keeps the numbers under all names. -/
theorem generation?_update (keeps : ∀ entry, (change entry).generation = entry.generation)
    (other : String) :
    (registry.update name generation change).generation? other = registry.generation? other := by
  rw [generation?, generation?, entryAt?_update]
  by_cases same : other = name
  · subst same
    cases registry.entryAt? other with
    | none => simp
    | some entry =>
        by_cases current : entry.generation = generation
        · simp [current, keeps]
        · simp [current]
  · simp [same]

theorem isCurrent_iff :
    registry.isCurrent name generation = true ↔ registry.generation? name = some generation := by
  rw [generation?, isCurrent]
  cases found : registry.entries.get? name with
  | none => simp [entryAt?, found]
  | some entry => simp [entryAt?, found]

end Telemetry.Registry
