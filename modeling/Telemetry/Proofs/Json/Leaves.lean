import Telemetry.Json.Value
import Telemetry.Proofs.NameMap
import Telemetry.Proofs.Text.ByteOrder

/-!
The leaves of a value are its parts that are no containers. They are listed in document order, each
with the steps that lead to it from the root, and the list has all of them.
-/

namespace Telemetry.Json

open Text (Utf8.encode)

/-- A step from a container to one of its parts. -/
inductive Step where
  | key (name : String)
  | index (place : Nat)
deriving DecidableEq, Repr

/-- The steps that lead from a value to one of its parts. -/
abbrev Place := List Step

def child? : Json → Step → Option Json
  | .object fields, .key name => findEntry name fields
  | .array items, .index place => items[place]?
  | _, _ => none

/-- The part of a value at a place. -/
def part? : Json → Place → Option Json
  | value, [] => some value
  | value, step :: place => (value.child? step).bind fun child => child.part? place

def isScalar : Json → Bool
  | .array _ => false
  | .object _ => false
  | _ => true

/-- Document order among the parts of one container: keys by their bytes, items by their numbers. -/
inductive Step.Before : Step → Step → Prop where
  | keys {first second : String} (below : Utf8.encode first.toList < Utf8.encode second.toList) :
      Before (.key first) (.key second)
  | indices {first second : Nat} (below : first < second) : Before (.index first) (.index second)

/-- Document order: that of the first steps that differ. -/
abbrev Place.Before : Place → Place → Prop := List.Lex Step.Before

/-- The leaves of a value: all of them, each with its place, in document order. -/
structure Listing (root : Json) (leaves : List (Place × Json)) : Prop where
  inOrder : leaves.Pairwise fun first second => first.1.Before second.1
  complete : ∀ place leaf,
    (place, leaf) ∈ leaves ↔ root.part? place = some leaf ∧ leaf.isScalar = true

/-- A leaf of a part, seen from the container. -/
def under (step : Step) (leaf : Place × Json) : Place × Json := (step :: leaf.1, leaf.2)

mutual

def leaves : Json → List (Place × Json)
  | .object fields => fieldLeaves fields
  | .array items => itemLeaves 0 items
  | .null => [([], .null)]
  | .bool value => [([], .bool value)]
  | .integer value => [([], .integer value)]
  | .double value => [([], .double value)]
  | .string value => [([], .string value)]

def fieldLeaves : List (String × Json) → List (Place × Json)
  | [] => []
  | (key, value) :: fields => (leaves value).map (under (.key key)) ++ fieldLeaves fields

def itemLeaves (index : Nat) : List Json → List (Place × Json)
  | [] => []
  | item :: items => (leaves item).map (under (.index index)) ++ itemLeaves (index + 1) items

end

/-- Every object in a value has such fields. -/
inductive Throughout (good : List (String × Json) → Prop) : Json → Prop where
  | scalar {value : Json} (scalar : value.isScalar = true) : Throughout good value
  | array {items : List Json} (each : ∀ item ∈ items, Throughout good item) :
      Throughout good (.array items)
  | object {fields : List (String × Json)} (own : good fields)
      (each : ∀ field ∈ fields, Throughout good field.2) : Throughout good (.object fields)

/-- A value as values are held: the keys of each object ascend. -/
abbrev Ordered (value : Json) : Prop := value.Throughout Ascending

/-- Every key in a value is such. -/
abbrev AllKeys (good : String → Prop) (value : Json) : Prop :=
  value.Throughout fun fields => ∀ field ∈ fields, good field.1

section Check

variable (good : List (String × Json) → Prop) [DecidablePred good]

mutual

def throughout : Json → Bool
  | .array items => throughoutItems items
  | .object fields => decide (good fields) && throughoutFields fields
  | _ => true

def throughoutItems : List Json → Bool
  | [] => true
  | item :: items => throughout item && throughoutItems items

def throughoutFields : List (String × Json) → Bool
  | [] => true
  | (_, value) :: fields => throughout value && throughoutFields fields

end

mutual

theorem throughout_iff (value : Json) : throughout good value = true ↔ value.Throughout good := by
  match value with
  | .null | .bool _ | .integer _ | .double _ | .string _ => exact iff_of_true rfl (.scalar rfl)
  | .array items =>
      rw [throughout, throughoutItems_iff items]
      refine ⟨.array, fun holds => ?_⟩
      cases holds with
      | scalar scalar => cases scalar
      | array each => exact each
  | .object fields =>
      rw [throughout, Bool.and_eq_true, decide_eq_true_iff, throughoutFields_iff fields]
      refine ⟨fun holds => .object holds.1 holds.2, fun holds => ?_⟩
      cases holds with
      | scalar scalar => cases scalar
      | object own each => exact ⟨own, each⟩

theorem throughoutItems_iff (items : List Json) :
    throughoutItems good items = true ↔ ∀ item ∈ items, item.Throughout good := by
  match items with
  | [] => simp [throughoutItems]
  | item :: items =>
      rw [throughoutItems, Bool.and_eq_true, throughout_iff item, throughoutItems_iff items,
        List.forall_mem_cons]

theorem throughoutFields_iff (fields : List (String × Json)) :
    throughoutFields good fields = true ↔ ∀ field ∈ fields, field.2.Throughout good := by
  match fields with
  | [] => simp [throughoutFields]
  | (_, value) :: fields =>
      rw [throughoutFields, Bool.and_eq_true, throughout_iff value, throughoutFields_iff fields,
        List.forall_mem_cons]

end

instance : DecidablePred (Throughout good) := fun value =>
  decidable_of_iff _ (throughout_iff good value)

instance : DecidablePred (Ascending (α := Json)) := fun fields =>
  inferInstanceAs (Decidable (fields.Pairwise _))

end Check

variable {value : Json} {items : List Json} {fields : List (String × Json)} {place : Place}
  {leaf : Json}

theorem leaves_of_isScalar (scalar : value.isScalar = true) : value.leaves = [([], value)] := by
  cases value with
  | array items => cases scalar
  | object fields => cases scalar
  | _ => rfl

theorem part?_of_isScalar (scalar : value.isScalar = true) :
    value.part? place = some leaf ↔ place = [] ∧ value = leaf := by
  cases place with
  | nil => simp [part?]
  | cons step place =>
      cases value with
      | array items => cases scalar
      | object fields => cases scalar
      | _ => simp [part?, child?]

theorem mem_map_under {step : Step} {inner : List (Place × Json)} :
    (place, leaf) ∈ inner.map (under step) ↔ ∃ rest, place = step :: rest ∧ (rest, leaf) ∈ inner := by
  simp only [List.mem_map, under, Prod.mk.injEq, Prod.exists]
  constructor
  · rintro ⟨rest, _, member, rfl, rfl⟩
    exact ⟨rest, rfl, member⟩
  · rintro ⟨rest, rfl, member⟩
    exact ⟨rest, leaf, member, rfl, rfl⟩

theorem mem_fieldLeaves :
    (place, leaf) ∈ fieldLeaves fields ↔
      ∃ field ∈ fields, ∃ rest, place = .key field.1 :: rest ∧ (rest, leaf) ∈ field.2.leaves := by
  induction fields with
  | nil => simp [fieldLeaves]
  | cons field fields ih =>
      simp only [fieldLeaves, List.mem_append, mem_map_under, ih, List.mem_cons, exists_eq_or_imp]

theorem mem_itemLeaves {index : Nat} :
    (place, leaf) ∈ itemLeaves index items ↔
      ∃ offset item, items[offset]? = some item ∧
        ∃ rest, place = .index (index + offset) :: rest ∧ (rest, leaf) ∈ item.leaves := by
  induction items generalizing index with
  | nil => simp [itemLeaves]
  | cons first items ih =>
      rw [itemLeaves, List.mem_append, mem_map_under, ih]
      constructor
      · rintro (own | ⟨offset, item, found, rest, rfl, member⟩)
        · exact ⟨0, first, rfl, own⟩
        · exact ⟨offset + 1, item, found, rest, by rw [Nat.add_assoc, Nat.add_comm 1], member⟩
      · rintro ⟨offset, item, found, rest, rfl, member⟩
        cases offset with
        | zero =>
            cases found
            exact .inl ⟨rest, rfl, member⟩
        | succ offset =>
            exact .inr ⟨offset, item, found, rest, by rw [Nat.add_assoc, Nat.add_comm 1], member⟩

theorem mem_leaves (ordered : value.Ordered) :
    (place, leaf) ∈ value.leaves ↔ value.part? place = some leaf ∧ leaf.isScalar = true := by
  induction ordered generalizing place with
  | @scalar value scalar =>
      rw [leaves_of_isScalar scalar, part?_of_isScalar scalar, List.mem_singleton, Prod.mk.injEq]
      constructor
      · rintro ⟨rfl, rfl⟩
        exact ⟨⟨rfl, rfl⟩, scalar⟩
      · rintro ⟨⟨rfl, rfl⟩, _⟩
        exact ⟨rfl, rfl⟩
  | @array items each ih =>
      rw [leaves, mem_itemLeaves]
      constructor
      · rintro ⟨offset, item, found, rest, rfl, member⟩
        rw [part?, child?, Nat.zero_add, found, Option.bind_some]
        exact (ih item (List.mem_of_getElem? found)).mp member
      · rintro ⟨found, scalar⟩
        rcases place with _ | ⟨_ | offset, rest⟩
        · cases found
          cases scalar
        · cases found
        · obtain ⟨item, isItem, inItem⟩ := Option.bind_eq_some_iff.mp found
          exact ⟨offset, item, isItem, rest, by rw [Nat.zero_add],
            (ih item (List.mem_of_getElem? isItem)).mpr ⟨inItem, scalar⟩⟩
  | @object fields ascending each ih =>
      rw [leaves, mem_fieldLeaves]
      constructor
      · rintro ⟨field, isField, rest, rfl, member⟩
        rw [part?, child?, findEntry_of_mem ascending isField, Option.bind_some]
        exact (ih field isField).mp member
      · rintro ⟨found, scalar⟩
        rcases place with _ | ⟨name | _, rest⟩
        · cases found
          cases scalar
        · obtain ⟨own, isField, inField⟩ := Option.bind_eq_some_iff.mp found
          have member := mem_of_findEntry isField
          exact ⟨_, member, rest, rfl, (ih _ member).mpr ⟨inField, scalar⟩⟩
        · cases found

theorem pairwise_map_under {step : Step} {inner : List (Place × Json)}
    (inOrder : inner.Pairwise fun first second => first.1.Before second.1) :
    (inner.map (under step)).Pairwise fun first second => first.1.Before second.1 :=
  List.pairwise_map.mpr (inOrder.imp fun before => .cons before)

theorem leaves_inOrder (ordered : value.Ordered) :
    value.leaves.Pairwise fun first second => first.1.Before second.1 := by
  induction ordered with
  | scalar scalar =>
      rw [leaves_of_isScalar scalar]
      exact List.pairwise_singleton _ _
  | @array items each ih =>
      rw [leaves]
      generalize 0 = index
      clear each
      induction items generalizing index with
      | nil => exact .nil
      | cons item items others =>
          rw [itemLeaves]
          refine List.pairwise_append.mpr ⟨pairwise_map_under (ih item List.mem_cons_self),
            others (fun other member => ih other (List.mem_cons_of_mem _ member)) _, ?_⟩
          rintro ⟨place, leaf⟩ own ⟨later, other⟩ member
          obtain ⟨rest, rfl, _⟩ := mem_map_under.mp own
          obtain ⟨offset, _, _, _, rfl, _⟩ := mem_itemLeaves.mp member
          exact .rel (.indices (by omega))
  | @object fields ascending each ih =>
      rw [leaves]
      clear each
      induction fields with
      | nil => exact .nil
      | cons field fields others =>
          obtain ⟨below, restAscending⟩ := List.pairwise_cons.mp ascending
          rw [fieldLeaves]
          refine List.pairwise_append.mpr ⟨pairwise_map_under (ih field List.mem_cons_self),
            others restAscending fun other member => ih other (List.mem_cons_of_mem _ member), ?_⟩
          rintro ⟨place, leaf⟩ own ⟨later, other⟩ member
          obtain ⟨rest, rfl, _⟩ := mem_map_under.mp own
          obtain ⟨next, isField, _, rfl, _⟩ := mem_fieldLeaves.mp member
          exact .rel (.keys (Text.Utf8.lt_iff_encode_lt.mp (below next isField)))

theorem listing_leaves (ordered : value.Ordered) : Listing value value.leaves :=
  ⟨leaves_inOrder ordered, fun _ _ => mem_leaves ordered⟩

theorem Step.Before.asymm {first second : Step} (before : first.Before second) :
    ¬ second.Before first := by
  intro after
  cases before with
  | keys below =>
      cases after with
      | keys above => exact List.lt_asymm below above
  | indices below =>
      cases after with
      | indices above => exact Nat.lt_asymm below above

theorem Place.Before.asymm {first second : Place} (before : first.Before second) :
    ¬ second.Before first := by
  induction before with
  | nil => exact fun after => nomatch after
  | cons _ ih =>
      intro after
      cases after with
      | cons after => exact ih after
      | rel after => exact after.asymm after
  | rel before =>
      intro after
      cases after with
      | cons _ => exact before.asymm before
      | rel after => exact before.asymm after

/-- A value has one listing of its leaves. -/
theorem Listing.eq {first second : List (Place × Json)} (one : Listing value first)
    (other : Listing value second) : first = second := by
  have nodup : ∀ {leaves}, Listing value leaves → leaves.Nodup := by
    intro leaves listing
    refine listing.inOrder.imp ?_
    rintro leaf _ before rfl
    exact before.asymm before
  have same : first.Perm second := (List.perm_ext_iff_of_nodup (nodup one) (nodup other)).mpr
    fun leaf => (one.complete leaf.1 leaf.2).trans (other.complete leaf.1 leaf.2).symm
  exact same.eq_of_pairwise (fun _ _ _ _ before after => absurd after before.asymm) one.inOrder
    other.inOrder

/-- The keys on the way to a leaf are keys of the value. -/
theorem AllKeys.on_way {good : String → Prop} (allKeys : value.AllKeys good)
    (member : (place, leaf) ∈ value.leaves) {name : String} (onWay : .key name ∈ place) :
    good name := by
  induction allKeys generalizing place with
  | scalar scalar =>
      rw [leaves_of_isScalar scalar] at member
      cases List.mem_singleton.mp member
      cases onWay
  | array each ih =>
      rw [leaves] at member
      obtain ⟨offset, item, found, rest, rfl, inItem⟩ := mem_itemLeaves.mp member
      rcases List.mem_cons.mp onWay with same | later
      · cases same
      · exact ih item (List.mem_of_getElem? found) inItem later
  | object own each ih =>
      rw [leaves] at member
      obtain ⟨field, isField, rest, rfl, inField⟩ := mem_fieldLeaves.mp member
      rcases List.mem_cons.mp onWay with same | later
      · cases same
        exact own field isField
      · exact ih field isField inField later

end Telemetry.Json
