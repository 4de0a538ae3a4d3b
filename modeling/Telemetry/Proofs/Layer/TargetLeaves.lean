import Telemetry.Proofs.Json.Numerals
import Telemetry.Proofs.Layer.Written

/-!
What a target writes as part of a declaration. The elements of its list are written under their
positions and found as a list; the target is read back as it is where its name is plain, and below
what its name starts with where it is not.
-/

namespace Telemetry.Layer

open KeyPath (parse)
open Text (IsLower lowercase)

variable {tree : Node} {leaf : Leaf} {name field : String} {path : List PathStep}

section Lists

variable {first : String} {names : List String}

theorem toList_elementKey (first : String) (names : List String) (position : Nat) :
    (pointedNames first names ++ "[" ++ toString position ++ "]").toList =
      first.toList ++ ((names.flatMap fun name => '.' :: name.toList) ++
        '[' :: (Nat.toDigits 10 position ++ [']'])) := by
  simp only [String.toList_append, pointedNames, String.toList_ofList, List.append_assoc,
    Nat.toString_eq_ofList_toDigits]
  rfl

theorem isLower_digit {c : Char} (digit : c.isDigit = true) : IsLower c := by
  simp only [Char.isDigit, Bool.and_eq_true, decide_eq_true_eq, UInt32.le_iff_toNat_le] at digit
  refine Text.isLower_of_ascii (Nat.lt_of_le_of_lt digit.2 (by decide)) ?_
  refine decide_eq_false fun upper => ?_
  rw [ge_iff_le, UInt32.le_iff_toNat_le] at upper
  exact absurd (Nat.le_trans upper.1 digit.2) (by decide)

theorem leads_element (settled : ∀ name ∈ first :: names, IsSettled name) {position : Nat}
    (parsed : parse (lowercase (pointedNames first names ++ "[" ++ toString position ++ "]")) =
      .ok path) :
    path = (first :: names).map .name ++ [.index position] := by
  have digits : ∀ c ∈ Nat.toDigits 10 position, c.isDigit = true := fun c member =>
    Nat.isDigit_of_mem_toDigits (by decide) (by decide) member
  have whole := toList_elementKey first names position
  have lower : lowercase (pointedNames first names ++ "[" ++ toString position ++ "]") =
      pointedNames first names ++ "[" ++ toString position ++ "]" := by
    rw [Text.lowercase_eq_self_iff]
    simp only [String.toList_append, Nat.toString_eq_ofList_toDigits, String.toList_ofList,
      List.mem_append]
    rintro c (((member | member) | member) | member)
    · exact Text.lowercase_eq_self_iff.mp
        (lowercase_pointedNames fun name member => (settled name member).2) c member
    · obtain rfl : c = '[' := List.mem_singleton.mp member
      decide
    · exact isLower_digit (digits c member)
    · obtain rfl : c = ']' := List.mem_singleton.mp member
      decide
  rw [lower] at parsed
  have ends : EndsName ((names.flatMap fun name => '.' :: name.toList) ++
      '[' :: (Nat.toDigits 10 position ++ [']'])) := by
    cases names <;> rintro c ⟨⟩ <;> rfl
  obtain ⟨more, rfl, spells⟩ :=
    KeyPath.rest_of_parse (settled first List.mem_cons_self).1 ends whole parsed
  obtain ⟨more, rfl, spelt⟩ := spells.names_append
    (fun name member => (settled name (List.mem_cons_of_mem _ member)).1)
    (by rintro c ⟨⟩; rfl)
  rw [spelt.index_cases Nat.toDigits_ne_nil digits, Decimal.digitsValue_toDigits]
  rfl

/-- What a list leaves at its place: nothing when it is empty. -/
def listed (items : List Node) : Option Node :=
  if items.isEmpty then none else some (.list none items)

theorem putAt_length (items : List Node) (node : Node) :
    putAt items.length (fun _ => node) items = items ++ [node] := by
  have place : position (items.length : Int) items.length = (items.length, 0) := by
    rw [position, if_pos (Int.natCast_nonneg _), Int.toNat_natCast]
  have one : items.length + 1 - items.length = 1 := Nat.add_sub_cancel_left ..
  simp only [putAt, place, List.replicate_zero, List.nil_append, one, List.replicate_one]
  rw [List.set_append_right _ _ (Nat.le_refl _), Nat.sub_self]
  rfl

theorem setAt_length {origin : Option String} (items : List Node) (value : Scalar) :
    setAt [.index items.length] (.leaf origin value) (listed items) =
      .list none (items ++ [.leaf origin value]) := by
  cases items with
  | nil => exact congrArg (Node.list none) (putAt_length [] _)
  | cons first rest => exact congrArg (Node.list none) (putAt_length (first :: rest) _)

/-- Elements that are written one after the other are found as a list. -/
theorem at?_overlay_list {place : List String} (lower : ∀ name ∈ place, lowercase name = name)
    (keyOf : Nat → String) (values : List Scalar)
    (leads : ∀ position < values.length,
      KeyPath.ofKey (keyOf position) = place.map .name ++ [.index position])
    (nothing : tree.at? place = none) :
    (overlay tree (values.mapIdx fun position value => (keyOf position, .leaf none value))).at?
      place = listed (values.map (.leaf none)) := by
  induction values using List.reverseRecOn with
  | nil => exact nothing
  | append_singleton values last ih =>
      rw [List.length_append, List.length_singleton] at leads
      have before := ih fun position less => leads position (Nat.lt_succ_of_lt less)
      rw [List.mapIdx_concat, overlay_append, overlay_cons, leads _ (Nat.lt_succ_self _)]
      change (setAt _ _ (some _)).at? place = _
      rw [at?_setAt_names place lower, Option.bind_some, before, List.map_append]
      have length : values.length = (values.map (Node.leaf none)).length := (List.length_map _).symm
      rw [length, setAt_length]
      simp [listed]

end Lists

section Targets

variable {target : Target}

theorem isSettled_scalarNames : ∀ field ∈ scalarNames, IsSettled field := by decide +kernel

theorem isSettled_subscriptions : IsSettled "subscriptions" := by decide +kernel

theorem isSettled_place (settled : IsSettled name) : ∀ step ∈ ["targets", name], IsSettled step :=
  List.forall_mem_cons.mpr ⟨isSettled_targets, List.forall_mem_singleton.mpr settled⟩

theorem place_eq (name : String) : "targets." ++ name = pointedNames "targets" [name] := by
  apply String.toList_inj.mp
  simp only [pointedNames, String.toList_append, String.toList_ofList, List.flatMap_singleton]
  rfl

/-- The leaves of a target's list come after those of its other parts. -/
theorem targetLeaves_eq (place : String) (target : Target) :
    targetLeaves place target = targetLeaves place { target with subscriptions := [] } ++
      listLeaves (place ++ ("." ++ "subscriptions")) target.subscriptions := by
  simp only [targetLeaves, listLeaves, List.mapIdx_nil, List.append_nil]
  rfl

theorem keys_scalarLeaves (place : String) (target : Target) :
    (targetLeaves place { target with subscriptions := [] }).map (·.1) =
      scalarNames.map fun field => place ++ ("." ++ field) := by
  simp only [targetLeaves, listLeaves, List.mapIdx_nil, List.append_nil, List.map_cons,
    List.map_nil, readsBack_optionText.key, readsBack_optionBool.key, readsBack_optionWord.key]
  rfl

theorem entries_listLeaves (key : String) (values : List String) :
    (listLeaves key values).filterMap entryOf? =
      (values.map Scalar.text).mapIdx fun position value =>
        (lowercase (key ++ "[" ++ toString position ++ "]"), .leaf none value) := by
  induction values using List.reverseRecOn with
  | nil => rfl
  | append_singleton values last ih =>
      rw [listLeaves] at ih ⊢
      rw [List.mapIdx_concat, List.filterMap_append, ih, List.map_append, List.map_singleton,
        List.mapIdx_concat, List.length_map]
      rfl

theorem takes_listed (values : List String) :
    Takes (readList readText) (listed ((values.map Scalar.text).map (.leaf none))) [] values := by
  have items : ∀ (start : Nat) (values : List String),
      readItems readText start ((values.map Scalar.text).map (.leaf none)) = .ok values := by
    intro start values
    induction values generalizing start with
    | nil => rfl
    | cons value rest ih =>
        rw [List.map_cons, List.map_cons, readItems, ih]
        rfl
  cases values with
  | nil => exact rfl
  | cons value rest => exact items 0 (value :: rest)

theorem elements_lead {first : String} {names : List String} {values : List String}
    (settled : ∀ name ∈ first :: names, IsSettled name)
    (writable : Writable (listLeaves (pointedNames first names) values)) {position : Nat}
    (less : position < values.length) :
    KeyPath.ofKey (lowercase (pointedNames first names ++ "[" ++ toString position ++ "]")) =
      (first :: names).map .name ++ [.index position] := by
  have member : textLeaf (pointedNames first names ++ "[" ++ toString position ++ "]")
      values[position] ∈ listLeaves (pointedNames first names) values :=
    List.mem_mapIdx.mpr ⟨position, less, rfl⟩
  obtain ⟨_, path, _, parsed⟩ := writable _ member
  rw [KeyPath.ofKey]
  simp only [textLeaf] at parsed
  rw [parsed, leads_element settled parsed]

section Target

variable (settled : IsSettled name)

include settled

theorem subscriptions_settled : ∀ step ∈ ["targets", name, "subscriptions"], IsSettled step := by
  intro step member
  rcases List.mem_append.mp (show step ∈ ["targets", name] ++ ["subscriptions"] from member) with
    member | member
  · exact isSettled_place settled step member
  · exact List.mem_singleton.mp member ▸ isSettled_subscriptions

theorem apart_scalars (target : Target) :
    Apart ((targetLeaves (pointedNames "targets" [name])
      { target with subscriptions := [] }).filterMap entryOf?) := by
  refine apart_of_separate ?_
  rw [keys_scalarLeaves]
  exact separate_fields (isSettled_place settled) isSettled_scalarNames (by decide)

theorem name_stands
    (writable : Writable (targetLeaves (pointedNames "targets" [name])
      { target with subscriptions := [] })) (tree : Node) :
    ∃ node, (overlay tree ((targetLeaves (pointedNames "targets" [name])
      { target with subscriptions := [] }).filterMap entryOf?)).at? ["targets", name, "name"] =
        some node := by
  obtain ⟨_, _, stands⟩ := at?_of_field writable (apart_scalars settled target)
    (isSettled_place settled) (isSettled_scalarNames "name" (by decide))
    (List.mem_append_left _ List.mem_cons_self) rfl tree
  exact ⟨_, stands⟩

theorem scalars_takenFrom_leaves
    (writable : Writable (targetLeaves (pointedNames "targets" [name])
      { target with subscriptions := [] })) (tree : Node) :
    target.TakenFrom fun part =>
      (overlay tree ((targetLeaves (pointedNames "targets" [name])
        { target with subscriptions := [] }).filterMap entryOf?)).at? ["targets", name, part] := by
  have field {α : Type} {build : String → α → Leaf} {read : Node → Except ConfigError α} {value : α}
      (part : String) (back : ReadsBack build read) (isName : part ∈ scalarNames)
      (member : build (pointedNames "targets" [name] ++ ("." ++ part)) value ∈
        targetLeaves (pointedNames "targets" [name]) { target with subscriptions := [] })
      (start : α) := takes_of_field back writable (apart_scalars settled target)
        (isSettled_place settled) (isSettled_scalarNames part isName) member tree start
  exact {
    name := field "name" readsBack_text (by decide) (by simp [targetLeaves]) _
    address := field "address" readsBack_text (by decide) (by simp [targetLeaves]) _
    username := field "username" readsBack_optionText (by decide) (by simp [targetLeaves]) _
    password := field "password" readsBack_optionText (by decide) (by simp [targetLeaves]) _
    insecure := field "insecure" readsBack_optionBool (by decide) (by simp [targetLeaves]) _
    skipVerify := field "skip_verify" readsBack_optionBool (by decide) (by simp [targetLeaves]) _
    timeoutMs := field "timeout_in_ms" readsBack_optionWord (by decide) (by simp [targetLeaves]) _
    authorityFile := field "tls_ca" readsBack_optionText (by decide) (by simp [targetLeaves]) _ }

theorem silentAt_elements {values : List String}
    (writable : Writable (listLeaves (pointedNames "targets" [name, "subscriptions"]) values))
    (differ : "subscriptions" ≠ field) :
    SilentAt ((listLeaves (pointedNames "targets" [name, "subscriptions"]) values).filterMap
      entryOf?) ["targets", name, field] := by
  intro entry member
  obtain ⟨leaf, isLeaf, value, _, rfl⟩ := mem_entries_iff.mp member
  obtain ⟨position, less, rfl⟩ := List.mem_mapIdx.mp isLeaf
  have leads := elements_lead (subscriptions_settled settled) writable less
  simp only [textLeaf]
  rw [leads]
  exact misses_of_ne (isSettled_subscriptions.2.symm ▸ differ) ["targets", name] _ _ []

theorem silentAt_scalars :
    SilentAt ((targetLeaves (pointedNames "targets" [name])
      { target with subscriptions := [] }).filterMap entryOf?)
        ["targets", name, "subscriptions"] := by
  intro entry member
  obtain ⟨leaf, isLeaf, value, _, rfl⟩ := mem_entries_iff.mp member
  have isKey := List.mem_map_of_mem (f := (·.1)) isLeaf
  rw [keys_scalarLeaves] at isKey
  obtain ⟨field, isField, same⟩ := List.mem_map.mp isKey
  have own := isSettled_scalarNames field isField
  rw [← same, leads_field (isSettled_place settled) own, List.map_append]
  refine misses_of_ne ?_ ["targets", name] [] _ []
  rw [own.2]
  rintro rfl
  exact absurd isField (by decide)

/-- A target is read back from where it is written, where nothing stood before. -/
theorem target_takenFrom_leaves (writable : Writable (targetLeaves ("targets." ++ name) target))
    (nothing : tree.at? ["targets", name] = none) :
    let written := overlay tree ((targetLeaves ("targets." ++ name) target).filterMap entryOf?)
    (∃ node, written.at? ["targets", name, "name"] = some node) ∧
      (target.TakenFrom fun part => written.at? ["targets", name, part]) ∧
      Takes (readList readText) (written.at? ["targets", name, "subscriptions"]) []
        target.subscriptions := by
  rw [place_eq, targetLeaves_eq, pointedNames_append, List.singleton_append] at writable ⊢
  have scalars := fun leaf member => writable leaf (List.mem_append_left _ member)
  have elements := fun leaf member => writable leaf (List.mem_append_right _ member)
  rw [List.filterMap_append, overlay_append]
  have stands := name_stands settled scalars tree
  have taken := scalars_takenFrom_leaves settled scalars tree
  have below : (overlay tree ((targetLeaves (pointedNames "targets" [name])
      { target with subscriptions := [] }).filterMap entryOf?)).at?
        ["targets", name, "subscriptions"] = tree.at? ["targets", name, "subscriptions"] :=
    at?_overlay_of_silentAt (silentAt_scalars settled)
  generalize overlay tree _ = middle at *
  have kept : ∀ part ∈ scalarNames, middle.at? ["targets", name, part] =
      (overlay middle ((listLeaves (pointedNames "targets" [name, "subscriptions"])
        target.subscriptions).filterMap entryOf?)).at? ["targets", name, part] := by
    intro part isPart
    refine (at?_overlay_of_silentAt (silentAt_elements settled elements ?_)).symm
    rintro rfl
    exact absurd isPart (by decide)
  refine ⟨kept "name" (by decide) ▸ stands, taken.congr kept, ?_⟩
  have absent : middle.at? ["targets", name, "subscriptions"] = none := by
    have further := Node.at?_append tree ["targets", name] ["subscriptions"]
    rw [nothing] at further
    exact below.trans further
  have lists := at?_overlay_list (fun step member => (subscriptions_settled settled step member).2)
    _ (target.subscriptions.map .text)
    (fun position less => elements_lead (subscriptions_settled settled) elements
      (by rwa [List.length_map] at less)) absent
  rw [← entries_listLeaves] at lists
  rw [lists]
  exact takes_listed target.subscriptions

end Target

/-- A leaf of a target stands behind the target's name and a point. -/
theorem key_of_targetLeaf {place : String} (member : leaf ∈ targetLeaves place target) :
    ∃ rest, leaf.1.toList = place.toList ++ '.' :: rest ∧ ∀ c ∈ rest, IsLower c := by
  have joined : ∀ part : String, (place ++ ("." ++ part)).toList =
      place.toList ++ '.' :: part.toList := by
    intro part
    rw [String.toList_append, String.toList_append]
    rfl
  rw [targetLeaves_eq] at member
  rcases List.mem_append.mp member with member | member
  · have isKey := List.mem_map_of_mem (f := (·.1)) member
    rw [keys_scalarLeaves] at isKey
    obtain ⟨field, isField, same⟩ := List.mem_map.mp isKey
    exact ⟨field.toList, by rw [← same, joined],
      Text.lowercase_eq_self_iff.mp (isSettled_scalarNames field isField).2⟩
  · obtain ⟨position, _, rfl⟩ := List.mem_mapIdx.mp member
    refine ⟨"subscriptions".toList ++ '[' :: (Nat.toDigits 10 position ++ [']']), ?_, ?_⟩
    · simp only [textLeaf, String.toList_append, Nat.toString_eq_ofList_toDigits,
        String.toList_ofList, List.append_assoc]
      rfl
    · intro c member
      rcases List.mem_append.mp member with member | member
      · exact Text.lowercase_eq_self_iff.mp isSettled_subscriptions.2 c member
      · rcases List.mem_cons.mp member with rfl | member
        · decide
        · rcases List.mem_append.mp member with member | member
          · exact isLower_digit (Nat.isDigit_of_mem_toDigits (by decide) (by decide) member)
          · obtain rfl := List.mem_singleton.mp member
            decide

theorem lowercase_targetLeaf (lower : lowercase name = name)
    (member : leaf ∈ targetLeaves ("targets." ++ name) target) : lowercase leaf.1 = leaf.1 := by
  obtain ⟨rest, whole, others⟩ := key_of_targetLeaf member
  rw [Text.lowercase_eq_self_iff, whole, place_eq]
  intro c member
  have placeLower : ∀ step ∈ ["targets", name], lowercase step = step :=
    List.forall_mem_cons.mpr ⟨isSettled_targets.2, List.forall_mem_singleton.mpr lower⟩
  rcases List.mem_append.mp member with member | member
  · exact Text.lowercase_eq_self_iff.mp (lowercase_pointedNames placeLower) c member
  · rcases List.mem_cons.mp member with rfl | member
    · decide
    · exact others c member

/-- A leaf of a target is written below the plain name that the target's name starts with. -/
theorem leads_targetLeaf (lower : lowercase name = name)
    (member : leaf ∈ targetLeaves ("targets." ++ name) target)
    (parsed : parse (lowercase leaf.1) = .ok path) :
    ∃ more, path = .name "targets" :: .name (leadingName name) :: more ∧
      IsPlain (leadingName name) := by
  obtain ⟨rest, whole, _⟩ := key_of_targetLeaf member
  have key : leaf.1.toList = "targets".toList ++ '.' :: (name.toList ++ '.' :: rest) := by
    rw [whole, String.toList_append, List.append_assoc]
    rfl
  rw [lowercase_targetLeaf lower member] at parsed
  obtain ⟨more, rfl, spells⟩ :=
    KeyPath.rest_of_parse isSettled_targets.1 (by rintro c ⟨⟩; rfl) key parsed
  obtain ⟨more, rfl, plain, _⟩ := spells.name_cases (by rintro c ⟨⟩; rfl)
  exact ⟨more, rfl, plain⟩

end Targets

end Telemetry.Layer
