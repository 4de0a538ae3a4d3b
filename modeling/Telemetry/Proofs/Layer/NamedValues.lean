import Mathlib.Data.List.Nodup
import Telemetry.Proofs.Layer.Spelling
import Telemetry.Proofs.Layer.Taking

/-!
What the layer of the environment does to single values. Variables that each name one value give the
values that they name, in whatever order they stand, and leave the others as they are.
-/

namespace Telemetry.Layer

open Text (lowercase)

variable {tree : Node} {name : String} {environment reordered : Environment}
  {place other : List String}

/-- The places of single values: the settings, and the parts of targets apart from their lists. -/
inductive IsScalarPlace : List String → Prop where
  | setting {field : String} (isField : field ∈ settingNames) : IsScalarPlace ["global", field]
  | target (name : String) {field : String} (isField : field ∈ scalarNames) :
      IsScalarPlace ["targets", name, field]

/-- The variables that count. -/
def counting (environment : Environment) : Environment :=
  environment.filter fun binding => (environmentKey? binding.1).isSome

/-- Each variable that counts names a single value, no two the same, and none is empty. -/
structure NamesScalars (environment : Environment) : Prop where
  each : ∀ binding ∈ counting environment, binding.2 ≠ "" ∧
    ∃ place, IsScalarPlace place ∧ (∀ name ∈ place, IsNameable name) ∧
      lowercase binding.1 = variableOf place
  distinct : ((counting environment).map fun binding => lowercase binding.1).Nodup

/-- What the variable for a place gives, if there is one. -/
def variableFor? (environment : Environment) (place : List String) : Option Node :=
  (environment.find? fun binding => lowercase binding.1 == variableOf place).map fun binding =>
    .leaf (some environmentOrigin) (environmentValue binding.2)

/-- No part's name, with the underscores in front of it, ends another one's. -/
theorem eq_of_suffix : ∀ part ∈ scalarNames, ∀ other ∈ scalarNames,
    ('_' :: '_' :: part.toList).isSuffixOf ('_' :: '_' :: other.toList) = true → part = other := by
  decide +kernel

/-- The variables for settings and those for targets part at the third letter behind the prefix. -/
theorem variableOf_setting_ne (field name part : String) :
    variableOf ["global", field] ≠ variableOf ["targets", name, part] := by
  intro same
  have lists := List.append_cancel_left (String.ofList_inj.mp same)
  exact absurd (List.cons.inj (List.cons.inj (List.cons.inj lists).2).2).1 (by decide)

/-- Variables for different values have different names. -/
theorem variableOf_inj (one : IsScalarPlace place) (two : IsScalarPlace other)
    (same : variableOf place = variableOf other) : place = other := by
  have lists := List.append_cancel_left (String.ofList_inj.mp same)
  cases one with
  | @setting field isField =>
      cases two with
      | @setting otherField isOther =>
          have rest : field.toList ++ [] = otherField.toList ++ [] :=
            @List.append_cancel_left _ "__global__".toList _ _ lists
          rw [String.toList_inj.mp (List.append_cancel_right rest)]
      | target name isOther => exact absurd same (variableOf_setting_ne _ _ _)
  | @target name part isPart =>
      cases two with
      | setting isOther => exact absurd same (variableOf_setting_ne _ _ _).symm
      | @target otherName otherPart isOther =>
          have rest : name.toList ++ (('_' :: '_' :: part.toList) ++ []) =
              otherName.toList ++ (('_' :: '_' :: otherPart.toList) ++ []) :=
            @List.append_cancel_left _ "__targets__".toList _ _ lists
          rw [List.append_nil, List.append_nil] at rest
          have ends : ('_' :: '_' :: part.toList) <:+
              otherName.toList ++ ('_' :: '_' :: otherPart.toList) := rest ▸ List.suffix_append _ _
          have otherEnds : ('_' :: '_' :: otherPart.toList) <:+
              otherName.toList ++ ('_' :: '_' :: otherPart.toList) := List.suffix_append _ _
          obtain rfl : part = otherPart := by
            rcases Nat.le_total ('_' :: '_' :: part.toList).length
              ('_' :: '_' :: otherPart.toList).length with shorter | longer
            · exact eq_of_suffix part isPart otherPart isOther (List.isSuffixOf_iff_suffix.mpr
                (List.suffix_of_suffix_length_le ends otherEnds shorter))
            · exact (eq_of_suffix otherPart isOther part isPart (List.isSuffixOf_iff_suffix.mpr
                (List.suffix_of_suffix_length_le otherEnds ends longer))).symm
          rw [String.toList_inj.mp (List.append_cancel_right rest)]

theorem misses_of_isScalarPlace (one : IsScalarPlace place) (two : IsScalarPlace other)
    (lower : ∀ name ∈ place, lowercase name = name) (differ : place ≠ other) (node : Node) :
    Misses (place.map .name) node other := by
  cases one with
  | @setting field isField =>
      cases two with
      | @setting otherField isOther =>
          refine misses_of_ne ?_ ["global"] [] node []
          rw [lower field (by simp)]
          rintro rfl
          exact differ rfl
      | target name isOther =>
          refine misses_of_ne ?_ [] _ node _
          rw [lower "global" (by simp)]
          decide
  | @target name part isPart =>
      cases two with
      | setting isOther =>
          refine misses_of_ne ?_ [] _ node _
          rw [lower "targets" (by simp)]
          decide
      | @target otherName otherPart isOther =>
          by_cases same : name = otherName
          · subst same
            refine misses_of_ne ?_ ["targets", name] [] node []
            rw [lower part (by simp)]
            rintro rfl
            exact differ rfl
          · refine misses_of_ne ?_ ["targets"] _ node _
            rwa [lower name (by simp)]

/-- A variable that counts gives an entry at the place that it names. -/
theorem NamesScalars.entry (scalars : NamesScalars environment) {binding : String × String}
    (counts : binding ∈ counting environment) :
    ∃ place key, IsScalarPlace place ∧ (∀ name ∈ place, IsNameable name) ∧
      lowercase binding.1 = variableOf place ∧ KeyPath.ofKey key = place.map .name ∧
      environmentEntry? binding =
        some (key, .leaf (some environmentOrigin) (environmentValue binding.2)) := by
  obtain ⟨nonempty, place, isPlace, nameable, named⟩ := scalars.each binding counts
  obtain ⟨first, names, rfl⟩ : ∃ first names, place = first :: names := by
    cases isPlace <;> exact ⟨_, _, rfl⟩
  obtain ⟨key, isKey, leads⟩ := environmentKey?_of_variableOf named nameable
  refine ⟨_, key, isPlace, nameable, named, leads, ?_⟩
  exact environmentEntry?_of_key nonempty isKey

theorem counts_of_entry {binding : String × String} {entry : String × Node}
    (member : binding ∈ environment) (isEntry : environmentEntry? binding = some entry) :
    binding ∈ counting environment := by
  refine List.mem_filter.mpr ⟨member, ?_⟩
  unfold environmentEntry? at isEntry
  split at isEntry
  · cases isEntry
  · obtain ⟨key, isKey, _⟩ := Option.map_eq_some_iff.mp isEntry
    rw [isKey]
    rfl

theorem NamesScalars.apart (scalars : NamesScalars environment) :
    Apart (environmentLayer environment) := by
  refine List.pairwise_filterMap.mpr ?_
  have distinct := List.pairwise_filter.mp (List.pairwise_map.mp scalars.distinct)
  refine distinct.imp_of_mem ?_
  intro first second isFirst isSecond differ entry isEntry other isOther place leads
  have firstCounts := counts_of_entry isFirst isEntry
  have secondCounts := counts_of_entry isSecond isOther
  obtain ⟨one, oneKey, isOne, _, named, oneLeads, same⟩ := scalars.entry firstCounts
  rw [same] at isEntry
  cases isEntry
  obtain ⟨two, twoKey, isTwo, nameable, otherNamed, twoLeads, same⟩ := scalars.entry secondCounts
  rw [same] at isOther
  cases isOther
  obtain rfl := names_inj (oneLeads.symm.trans leads)
  simp only [twoLeads]
  refine misses_of_isScalarPlace isTwo isOne (fun name member => (nameable name member).2.2) ?_ _
  rintro rfl
  exact differ (List.mem_filter.mp firstCounts).2 (List.mem_filter.mp secondCounts).2
    (named.trans otherNamed.symm)

theorem counts_of_named (isPlace : IsScalarPlace place) {binding : String × String}
    (member : binding ∈ environment) (named : lowercase binding.1 = variableOf place) :
    binding ∈ counting environment := by
  obtain ⟨first, names, rfl⟩ : ∃ first names, place = first :: names := by
    cases isPlace <;> exact ⟨_, _, rfl⟩
  exact List.mem_filter.mpr ⟨member, by rw [environmentKey?_eq named]; rfl⟩

/-- The variable that is found for a place gives the entry there. -/
theorem NamesScalars.entry_of_find? (scalars : NamesScalars environment)
    (isPlace : IsScalarPlace place) {binding : String × String}
    (found : environment.find? (fun binding => lowercase binding.1 == variableOf place) =
      some binding) :
    (∀ name ∈ place, IsNameable name) ∧ ∃ key, KeyPath.ofKey key = place.map .name ∧
      (key, .leaf (some environmentOrigin) (environmentValue binding.2)) ∈
        environmentLayer environment := by
  have named : lowercase binding.1 = variableOf place := by simpa using List.find?_some found
  have member := List.mem_of_find?_eq_some found
  obtain ⟨other, key, isOther, nameable, otherNamed, leads, isEntry⟩ :=
    scalars.entry (counts_of_named isPlace member named)
  obtain rfl := variableOf_inj isPlace isOther (named.symm.trans otherNamed)
  exact ⟨nameable, key, leads, List.mem_filterMap.mpr ⟨binding, member, isEntry⟩⟩

theorem NamesScalars.silentAt (scalars : NamesScalars environment)
    (misses : ∀ binding ∈ environment, ∀ other, IsScalarPlace other →
      (∀ name ∈ other, lowercase name = name) → lowercase binding.1 = variableOf other →
      ∀ node, Misses (other.map .name) node place) :
    SilentAt (environmentLayer environment) place := by
  intro entry member
  obtain ⟨binding, isBinding, isEntry⟩ := List.mem_filterMap.mp member
  obtain ⟨other, key, isOther, nameable, named, leads, same⟩ :=
    scalars.entry (counts_of_entry isBinding isEntry)
  rw [same] at isEntry
  cases isEntry
  simp only [leads]
  exact misses binding isBinding other isOther (fun name member => (nameable name member).2.2)
    named _

/-- Variables give the values that they name and leave the others as they are. -/
theorem at?_overlay_variables (scalars : NamesScalars environment) (tree : Node)
    (isPlace : IsScalarPlace place) :
    (overlay tree (environmentLayer environment)).at? place =
      (variableFor? environment place).or (tree.at? place) := by
  unfold variableFor?
  cases found : environment.find? fun binding => lowercase binding.1 == variableOf place with
  | some binding =>
      obtain ⟨nameable, key, leads, member⟩ := scalars.entry_of_find? isPlace found
      exact at?_overlay_of_apart scalars.apart tree member
        (fun name isName => (nameable name isName).2.2) leads
  | none =>
      refine at?_overlay_of_silentAt (scalars.silentAt ?_)
      intro binding member other isOther lower named
      refine misses_of_isScalarPlace isOther isPlace lower ?_
      rintro rfl
      exact List.find?_eq_none.mp found binding member (beq_iff_eq.mpr named)

/-- A variable gives a part of a target. -/
def IsVaried (environment : Environment) (name : String) : Prop :=
  ∃ part ∈ scalarNames, (variableFor? environment ["targets", name, part]).isSome

/-- Of a target of which no variable gives a part the variables say nothing. -/
theorem NamesScalars.silentAt_target (scalars : NamesScalars environment)
    (none : ¬ IsVaried environment name) :
    SilentAt (environmentLayer environment) ["targets", name] := by
  refine scalars.silentAt ?_
  intro binding member other isOther lower named node
  cases isOther with
  | setting isField =>
      refine misses_of_ne ?_ [] _ node _
      rw [lower "global" (by simp)]
      decide
  | @target otherName part isPart =>
      refine misses_of_ne ?_ ["targets"] _ node []
      rw [lower otherName (by simp)]
      rintro rfl
      refine none ⟨part, isPart, ?_⟩
      rw [variableFor?, Option.isSome_map, List.find?_isSome]
      exact ⟨binding, member, beq_iff_eq.mpr named⟩

/-- Variables give no lists. -/
theorem NamesScalars.silentAt_subscriptions (scalars : NamesScalars environment) (name : String) :
    SilentAt (environmentLayer environment) ["targets", name, "subscriptions"] := by
  refine scalars.silentAt ?_
  intro binding member other isOther lower named node
  cases isOther with
  | setting isField =>
      refine misses_of_ne ?_ [] _ node _
      rw [lower "global" (by simp)]
      decide
  | @target otherName part isPart =>
      by_cases same : otherName = name
      · subst same
        refine misses_of_ne ?_ ["targets", otherName] [] node []
        rw [lower part (by simp)]
        rintro rfl
        exact absurd isPart (by decide)
      · refine misses_of_ne ?_ ["targets"] _ node _
        rwa [lower otherName (by simp)]

/-- A variable for a part of a target makes the target one that stands there. -/
theorem isSome_at?_overlay_variables (scalars : NamesScalars environment) (tree : Node)
    (name : String) :
    ((overlay tree (environmentLayer environment)).at? ["targets", name]).isSome ↔
      (tree.at? ["targets", name]).isSome ∨ IsVaried environment name := by
  by_cases varied : IsVaried environment name
  · refine iff_of_true ?_ (.inr varied)
    obtain ⟨part, isPart, isSome⟩ := varied
    have below : ((overlay tree (environmentLayer environment)).at?
        (["targets", name] ++ [part])).isSome := by
      rw [List.cons_append, List.singleton_append,
        at?_overlay_variables scalars tree (.target name isPart), Option.isSome_or, isSome]
      rfl
    exact Node.isSome_of_below _ below
  · rw [at?_overlay_of_silentAt (scalars.silentAt_target varied)]
    exact ⟨.inl, fun either => either.resolve_right varied⟩

/-- Variables put no list in the place of a target. -/
theorem ne_list_overlay_variables (scalars : NamesScalars environment)
    (noList : ∀ origin items, tree.at? ["targets", name] ≠ some (.list origin items))
    (origin : Option String) (items : List Node) :
    (overlay tree (environmentLayer environment)).at? ["targets", name] ≠
      some (.list origin items) := by
  by_cases varied : IsVaried environment name
  · obtain ⟨part, isPart, isSome⟩ := varied
    have stands := at?_overlay_variables scalars tree (.target name isPart)
    obtain ⟨node, given⟩ := Option.isSome_iff_exists.mp isSome
    rw [given, Option.some_or] at stands
    exact Node.ne_list_of_below ["targets", name] stands origin items
  · rw [at?_overlay_of_silentAt (scalars.silentAt_target varied)]
    exact noList origin items

theorem NamesScalars.perm (scalars : NamesScalars environment)
    (perm : environment.Perm reordered) : NamesScalars reordered where
  each binding member := scalars.each binding ((perm.filter _).mem_iff.mpr member)
  distinct := ((perm.filter _).map _).nodup_iff.mp scalars.distinct

/-- What the variables give for a value does not depend on their order. -/
theorem variableFor?_perm (scalars : NamesScalars environment) (perm : environment.Perm reordered)
    (isPlace : IsScalarPlace place) :
    variableFor? reordered place = variableFor? environment place := by
  unfold variableFor?
  cases found : environment.find? fun binding => lowercase binding.1 == variableOf place with
  | none =>
      have absent : reordered.find? (fun binding => lowercase binding.1 == variableOf place) = none :=
        List.find?_eq_none.mpr fun binding member =>
          List.find?_eq_none.mp found binding (perm.mem_iff.mpr member)
      rw [absent]
  | some binding =>
      have named : lowercase binding.1 = variableOf place := by simpa using List.find?_some found
      have member := List.mem_of_find?_eq_some found
      cases again : reordered.find? fun binding => lowercase binding.1 == variableOf place with
      | none =>
          exact absurd (beq_iff_eq.mpr named)
            (List.find?_eq_none.mp again binding (perm.mem_iff.mp member))
      | some other =>
          have otherNamed : lowercase other.1 = variableOf place := by
            simpa using List.find?_some again
          have otherMember := perm.mem_iff.mpr (List.mem_of_find?_eq_some again)
          rw [List.inj_on_of_nodup_map scalars.distinct
            (counts_of_named isPlace otherMember otherNamed)
            (counts_of_named isPlace member named) (otherNamed.trans named.symm)]

end Telemetry.Layer
