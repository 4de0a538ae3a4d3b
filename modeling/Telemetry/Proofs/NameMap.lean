import Mathlib.Data.List.Perm.Subperm
import Telemetry.NameMap

/-!
Finite maps seen through look-ups: what insertion, removal and a change of the values do to what is
found under a name, and which names a map has.
-/

namespace Telemetry

variable {α β : Type}

theorem findEntry_cons (name : String) (entry : String × α) (rest : List (String × α)) :
    findEntry name (entry :: rest) =
      if name = entry.1 then some entry.2 else findEntry name rest := by
  by_cases same : name = entry.1
  · simp [findEntry, same]
  · simp [findEntry, same, Ne.symm same]

theorem findEntry_insertEntry (name other : String) (value : α) (entries : List (String × α)) :
    findEntry other (insertEntry name value entries) =
      if other = name then some value else findEntry other entries := by
  induction entries with
  | nil => rw [insertEntry, findEntry_cons]
  | cons first rest ih =>
      simp only [insertEntry]
      split
      · rw [findEntry_cons]
      · split
        · rename_i notBelow above
          rw [findEntry_cons, ih, findEntry_cons]
          by_cases asked : other = name
          · have distinct : other ≠ first.1 := fun same =>
              String.lt_irrefl first.1 (by rw [← asked, same] at above; exact above)
            simp only [if_neg distinct, if_pos asked]
          · simp only [if_neg asked]
        · rename_i notBelow notAbove
          have same : name = first.1 := string_lt_trichotomy notBelow notAbove
          rw [findEntry_cons, findEntry_cons]
          by_cases asked : other = name
          · simp only [if_pos asked]
          · have distinct : other ≠ first.1 := same ▸ asked
            simp only [if_neg asked, if_neg distinct]

theorem insertEntry_insertEntry (name : String) (first second : α)
    (entries : List (String × α)) :
    insertEntry name second (insertEntry name first entries) = insertEntry name second entries := by
  induction entries with
  | nil => simp [insertEntry]
  | cons entry rest ih =>
      by_cases below : name < entry.1
      · simp [insertEntry, below]
      · by_cases above : entry.1 < name
        · simp [insertEntry, below, above, ih]
        · simp [insertEntry, below, above]

theorem insertEntry_first {name : String} {value : α} {entries : List (String × α)}
    (above : ∀ entry ∈ entries, name < entry.1) :
    insertEntry name value entries = (name, value) :: entries := by
  cases entries with
  | nil => rfl
  | cons first rest => rw [insertEntry, if_pos (above first List.mem_cons_self)]

theorem insertEntry_last {name : String} {value : α} {entries : List (String × α)}
    (below : ∀ entry ∈ entries, entry.1 < name) :
    insertEntry name value entries = entries ++ [(name, value)] := by
  induction entries with
  | nil => rfl
  | cons first rest ih =>
      have above := below first List.mem_cons_self
      have notBelow : ¬ name < first.1 := String.lt_asymm above
      rw [insertEntry, if_neg notBelow, if_pos above,
        ih fun entry member => below entry (List.mem_cons_of_mem _ member), List.cons_append]

theorem findEntry_filter_ne (name other : String) (entries : List (String × α)) :
    findEntry other (entries.filter (fun entry => entry.1 != name)) =
      if other = name then none else findEntry other entries := by
  induction entries with
  | nil => simp [findEntry]
  | cons first rest ih =>
      by_cases removed : first.1 = name
      · rw [List.filter_cons_of_neg (by simp [removed]), ih, findEntry_cons]
        by_cases asked : other = name
        · simp only [if_pos asked]
        · have distinct : other ≠ first.1 := removed ▸ asked
          simp only [if_neg asked, if_neg distinct]
      · rw [List.filter_cons_of_pos (by simp [removed]), findEntry_cons, findEntry_cons, ih]
        by_cases asked : other = name
        · have distinct : other ≠ first.1 := fun same => removed (same ▸ asked)
          simp only [if_pos asked, if_neg distinct]
        · simp only [if_neg asked]

theorem findEntry_isSome {name : String} {entries : List (String × α)} :
    (findEntry name entries).isSome ↔ name ∈ entries.map (·.1) := by
  induction entries with
  | nil => simp [findEntry]
  | cons first rest ih =>
      rw [findEntry_cons, List.map_cons, List.mem_cons, ← ih]
      by_cases same : name = first.1
      · simp [same]
      · simp [same]

theorem findEntry_of_mem {entries : List (String × α)} (ascending : Ascending entries)
    {entry : String × α} (member : entry ∈ entries) :
    findEntry entry.1 entries = some entry.2 := by
  induction entries with
  | nil => cases member
  | cons first rest ih =>
      obtain ⟨below, rest_ascending⟩ := List.pairwise_cons.mp ascending
      rw [findEntry_cons]
      rcases List.mem_cons.mp member with rfl | member
      · simp
      · have distinct : entry.1 ≠ first.1 := fun same =>
          String.lt_irrefl entry.1 (by simpa [same] using below entry member)
        rw [if_neg distinct, ih rest_ascending member]

theorem mem_of_findEntry {name : String} {value : α} {entries : List (String × α)}
    (found : findEntry name entries = some value) : (name, value) ∈ entries := by
  induction entries with
  | nil => simp [findEntry] at found
  | cons first rest ih =>
      rw [findEntry_cons] at found
      split at found
      · rename_i same
        cases found
        simp [same]
      · exact List.mem_cons_of_mem _ (ih found)

/-- Of entries of different names the one of a name is found. -/
theorem findEntry_eq_some_iff {name : String} {value : α} {entries : List (String × α)}
    (distinct : (entries.map (·.1)).Nodup) :
    findEntry name entries = some value ↔ (name, value) ∈ entries := by
  refine ⟨mem_of_findEntry, ?_⟩
  induction entries with
  | nil => nofun
  | cons first rest ih =>
      obtain ⟨other, restDistinct⟩ := List.nodup_cons.mp distinct
      intro member
      rw [findEntry_cons]
      rcases List.mem_cons.mp member with same | member
      · simp [← same]
      · have differ : name ≠ first.1 := by
          intro same
          subst same
          exact other (List.mem_map_of_mem (f := (·.1)) member)
        rw [if_neg differ, ih restDistinct member]

theorem Ascending.names_nodup {entries : List (String × α)} (ascending : Ascending entries) :
    (entries.map (·.1)).Nodup := by
  refine (List.pairwise_map.mpr ascending).imp ?_
  intro first second below same
  exact String.lt_irrefl second (same ▸ below)

theorem findEntry_eq_none {name : String} {entries : List (String × α)}
    (above : ∀ entry ∈ entries, name < entry.1) : findEntry name entries = none := by
  rw [← Option.not_isSome_iff_eq_none, findEntry_isSome]
  intro present
  obtain ⟨entry, member, same⟩ := List.mem_map.mp present
  exact String.lt_irrefl name (same ▸ above entry member)

/-- Ascending entries are told by what is found among them. -/
theorem eq_of_findEntry {first second : List (String × α)} (ascending : Ascending first)
    (secondAscending : Ascending second)
    (same : ∀ name, findEntry name first = findEntry name second) : first = second := by
  induction first generalizing second with
  | nil =>
      cases second with
      | nil => rfl
      | cons entry rest => simpa [findEntry] using same entry.1
  | cons entry rest ih =>
      cases second with
      | nil => simpa [findEntry] using same entry.1
      | cons other more =>
          obtain ⟨below, restAscending⟩ := List.pairwise_cons.mp ascending
          obtain ⟨otherBelow, moreAscending⟩ := List.pairwise_cons.mp secondAscending
          have isFirst : ∀ {entry other : String × α} {rest more : List (String × α)},
              (∀ later ∈ more, other.1 < later.1) →
              (∀ name, findEntry name (entry :: rest) = findEntry name (other :: more)) →
              ¬ entry.1 < other.1 := by
            intro entry other rest more otherBelow same less
            have absent : findEntry entry.1 (other :: more) = none :=
              findEntry_eq_none (List.forall_mem_cons.mpr
                ⟨less, fun later member => String.lt_trans less (otherBelow later member)⟩)
            have present := same entry.1
            rw [findEntry_cons, if_pos rfl, absent] at present
            cases present
          have key : entry.1 = other.1 := string_lt_trichotomy (isFirst otherBelow same)
            (isFirst below fun name => (same name).symm)
          have value : entry.2 = other.2 := by
            have found := same entry.1
            rw [findEntry_cons, findEntry_cons, if_pos rfl, if_pos key] at found
            exact Option.some.inj found
          have tails : rest = more := by
            refine ih restAscending moreAscending fun name => ?_
            by_cases isKey : name = entry.1
            · rw [isKey, findEntry_eq_none below, key, findEntry_eq_none otherBelow]
            · have found := same name
              rwa [findEntry_cons, findEntry_cons, if_neg isKey, if_neg (key ▸ isKey)] at found
          rw [Prod.ext key value, tails]

namespace NameMap

theorem get?_insert (map : NameMap α) (name other : String) (value : α) :
    (map.insert name value).get? other = if other = name then some value else map.get? other :=
  findEntry_insertEntry name other value map.entries

/-- Of two values under one name the later one counts. -/
theorem insert_insert (map : NameMap α) (name : String) (first second : α) :
    (map.insert name first).insert name second = map.insert name second :=
  NameMap.ext (insertEntry_insertEntry name first second map.entries)

theorem ext_get? {first second : NameMap α} (same : ∀ name, first.get? name = second.get? name) :
    first = second :=
  NameMap.ext (eq_of_findEntry first.ascending second.ascending same)

theorem get?_erase (map : NameMap α) (name other : String) :
    (map.erase name).get? other = if other = name then none else map.get? other :=
  findEntry_filter_ne name other map.entries

theorem mem_names {map : NameMap α} {name : String} :
    name ∈ map.names ↔ (map.get? name).isSome :=
  findEntry_isSome.symm

theorem mem_names_of_get? {map : NameMap α} {name : String} {value : α}
    (found : map.get? name = some value) : name ∈ map.names :=
  mem_names.mpr (by simp [found])

theorem names_nodup (map : NameMap α) : map.names.Nodup := map.ascending.names_nodup

theorem length_names (map : NameMap α) : map.names.length = map.size := List.length_map _

/-- A map with names of a list has as many as the list is long just when it has them all, and none
of them stands there twice. -/
theorem size_eq_length_iff {map : NameMap α} {all : List String} (within : map.names ⊆ all) :
    map.size = all.length ↔ all.Nodup ∧ all ⊆ map.names := by
  have fits := List.subperm_of_subset map.names_nodup within
  rw [← map.length_names]
  constructor
  · intro same
    have whole : map.names.Perm all := fits.perm_of_length_le (Nat.le_of_eq same.symm)
    exact ⟨whole.nodup_iff.mp map.names_nodup, whole.symm.subset⟩
  · intro both
    exact (fits.antisymm (List.subperm_of_subset both.1 both.2)).length_eq

theorem mem_entries {map : NameMap α} {name : String} {value : α} :
    (name, value) ∈ map.entries ↔ map.get? name = some value :=
  ⟨findEntry_of_mem map.ascending, mem_of_findEntry⟩

theorem mem_names_insert {map : NameMap α} {name other : String} {value : α} :
    other ∈ (map.insert name value).names ↔ other = name ∨ other ∈ map.names := by
  rw [mem_names, get?_insert, mem_names]
  by_cases same : other = name
  · simp [same]
  · simp [same]

theorem mem_names_erase {map : NameMap α} {name other : String} :
    other ∈ (map.erase name).names ↔ other ∈ map.names ∧ other ≠ name := by
  rw [mem_names, get?_erase, mem_names]
  by_cases same : other = name
  · simp [same]
  · simp [same]

@[simp] theorem names_mapWithName (change : String → α → β) (map : NameMap α) :
    (map.mapWithName change).names = map.names := by
  simp [names, mapWithName, Function.comp_def]

theorem get?_mapWithName (change : String → α → β) (map : NameMap α) (name : String) :
    (map.mapWithName change).get? name = (map.get? name).map (change name) := by
  cases found : map.get? name with
  | none =>
      have absent : ¬ name ∈ (map.mapWithName change).names := by
        rw [names_mapWithName, mem_names, found]
        simp
      rw [mem_names] at absent
      simpa using absent
  | some value =>
      refine mem_entries.mp (List.mem_map.mpr ⟨(name, value), mem_entries.mpr found, rfl⟩)

/-- Inserted entries are found before those of the map. -/
theorem get?_foldl_insert {entries : List (String × α)} (distinct : (entries.map (·.1)).Nodup)
    (map : NameMap α) (name : String) :
    (entries.foldl (fun map entry => map.insert entry.1 entry.2) map).get? name =
      (findEntry name entries).or (map.get? name) := by
  induction entries generalizing map with
  | nil => rfl
  | cons first rest ih =>
      obtain ⟨other, restDistinct⟩ := List.nodup_cons.mp distinct
      rw [List.foldl_cons, ih restDistinct, get?_insert, findEntry_cons]
      by_cases own : name = first.1
      · have absent : findEntry name rest = none := by
          rw [← Option.not_isSome_iff_eq_none, findEntry_isSome, own]
          exact other
        rw [absent, if_pos own, if_pos own]
        rfl
      · rw [if_neg own, if_neg own]

/-- The entries of a map make up the map in any order. -/
theorem ofList_of_perm {entries : List (String × α)} {map : NameMap α}
    (same : entries.Perm map.entries) : ofList entries = map := by
  have distinct : (entries.map (·.1)).Nodup := by
    rw [(same.map (·.1)).nodup_iff]
    exact map.names_nodup
  refine ext_get? fun name => ?_
  have found : findEntry name entries = map.get? name := by
    ext value
    rw [findEntry_eq_some_iff distinct, same.mem_iff, mem_entries]
  rw [ofList, get?_foldl_insert distinct, found]
  exact Option.or_none

/-- Entries in ascending order are the entries of their map. -/
theorem entries_ofList {entries : List (String × α)} (ascending : Ascending entries) :
    (ofList entries).entries = entries := by
  have whole : ofList entries = ⟨entries, ascending⟩ := ofList_of_perm (List.Perm.refl entries)
  rw [whole]

end NameMap

end Telemetry
