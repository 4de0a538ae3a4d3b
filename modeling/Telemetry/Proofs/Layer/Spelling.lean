import Telemetry.Layer.Environment
import Telemetry.Proofs.Layer.Place
import Telemetry.Proofs.Text.Lower

/-!
Keys and the paths that they spell. Plain names joined by points lead from one name to the next, and
a variable whose name joins them by double underscores has such a key.
-/

namespace Telemetry.Layer

open KeyPath (isNameChar)
open Text (lowercase)

variable {name first variableName : String} {names place : List String} {text rest : List Char}

/-- A name that a path can lead through. -/
def IsPlain (name : String) : Prop := name ≠ "" ∧ ∀ c ∈ name.toList, isNameChar c = true

instance (name : String) : Decidable (IsPlain name) :=
  decidable_of_iff (name ≠ "" ∧ name.toList.all isNameChar = true)
    (and_congr_right' List.all_eq_true)

/-- Behind each underscore stands another character. -/
def hasSingles : List Char → Bool
  | [] => true
  | c :: rest => (c != '_' || rest.head?.any (· != '_')) && hasSingles rest

/-- A name that can be told from the others in the name of a variable. -/
def IsNameable (name : String) : Prop :=
  IsPlain name ∧ hasSingles name.toList = true ∧ lowercase name = name

instance (name : String) : Decidable (IsNameable name) :=
  inferInstanceAs (Decidable (IsPlain name ∧ hasSingles name.toList = true ∧ lowercase name = name))

/-- Names joined by points. -/
def pointedNames (first : String) (names : List String) : String :=
  String.ofList (first.toList ++ names.flatMap fun name => '.' :: name.toList)

theorem pointedNames_nil (first : String) : pointedNames first [] = first := by
  simp [pointedNames]

/-- The name, in lower case, of the variable for a place. -/
def variableOf (place : List String) : String :=
  String.ofList ("collector".toList ++ place.flatMap fun name => '_' :: '_' :: name.toList)

namespace KeyPath

/-- A plain name ends where another one is joined to it. -/
theorem takeWhile_plain (plain : IsPlain name) (names : List String) :
    (name.toList ++ names.flatMap fun name => '.' :: name.toList).takeWhile isNameChar =
      name.toList := by
  rw [List.takeWhile_append_of_pos plain.2]
  cases names with
  | nil => exact List.append_nil _
  | cons next more => exact List.append_nil _

theorem isEmpty_plain (plain : IsPlain name) : name.toList.isEmpty = false := by
  rw [List.isEmpty_eq_false_iff]
  exact fun nothing => plain.1 (String.toList_eq_nil_iff.mp nothing)

theorem steps_names (plain : ∀ name ∈ names, IsPlain name) {allowed : Nat}
    (enough : names.length ≤ allowed) :
    steps allowed (names.flatMap fun name => '.' :: name.toList) = .ok (names.map .name) := by
  induction names generalizing allowed with
  | nil => cases allowed <;> rfl
  | cons name more ih =>
      cases allowed with
      | zero => cases enough
      | succ allowed =>
          have own := plain name List.mem_cons_self
          rw [List.flatMap_cons, List.cons_append, steps]
          simp only [takeWhile_plain own, isEmpty_plain own, Bool.false_eq_true, if_false,
            List.drop_left]
          rw [ih (fun other member => plain other (List.mem_cons_of_mem _ member))
            (Nat.le_of_succ_le_succ enough), Except.map, String.ofList_toList, List.map_cons]

/-- Plain names joined by points spell the path from one to the next. -/
theorem parse_pointedNames (leading : IsPlain first) (plain : ∀ name ∈ names, IsPlain name) :
    parse (pointedNames first names) = .ok (.name first :: names.map .name) := by
  have enough : names.length ≤
      (first.toList ++ names.flatMap fun name => '.' :: name.toList).length := by
    have each : ∀ names : List String,
        names.length ≤ (names.flatMap fun name => '.' :: name.toList).length := by
      intro names
      induction names with
      | nil => exact Nat.le_refl 0
      | cons name more ih =>
          simp only [List.flatMap_cons, List.length_append, List.length_cons]
          omega
    rw [List.length_append]
    exact Nat.le_trans (each names) (Nat.le_add_left _ _)
  rw [parse, pointedNames]
  simp only [String.toList_ofList, takeWhile_plain leading, isEmpty_plain leading,
    Bool.false_eq_true, if_false, List.drop_left]
  rw [steps_names plain enough, Except.map, String.ofList_toList]

theorem ofKey_pointedNames (leading : IsPlain first) (plain : ∀ name ∈ names, IsPlain name) :
    ofKey (pointedNames first names) = (first :: names).map .name := by
  rw [ofKey, parse_pointedNames leading plain, List.map_cons]

end KeyPath

theorem pointed_cons {c : Char} (single : c = '_' → rest.head?.any (· != '_') = true) :
    pointed (c :: rest) = c :: pointed rest := by
  rw [pointed]
  rintro more rfl rfl
  simp at single

theorem pointed_append (singles : hasSingles text = true) (rest : List Char) :
    pointed (text ++ '_' :: '_' :: rest) = text ++ '.' :: pointed rest := by
  induction text with
  | nil => rfl
  | cons c more ih =>
      simp only [hasSingles, Bool.and_eq_true, Bool.or_eq_true, bne_iff_ne] at singles
      rw [List.cons_append, pointed_cons, ih singles.2, List.cons_append]
      intro underscore
      have followed := singles.1.resolve_left fun other => other underscore
      cases more with
      | nil => cases followed
      | cons next more => exact followed

theorem pointed_of_hasSingles (singles : hasSingles text = true) : pointed text = text := by
  induction text with
  | nil => rfl
  | cons c more ih =>
      simp only [hasSingles, Bool.and_eq_true, Bool.or_eq_true, bne_iff_ne] at singles
      rw [pointed_cons, ih singles.2]
      exact fun underscore => singles.1.resolve_left fun other => other underscore

theorem pointed_names (leading : hasSingles first.toList = true)
    (singles : ∀ name ∈ names, hasSingles name.toList = true) :
    pointed (first.toList ++ names.flatMap fun name => '_' :: '_' :: name.toList) =
      first.toList ++ names.flatMap fun name => '.' :: name.toList := by
  induction names generalizing first with
  | nil =>
      simp only [List.flatMap_nil, List.append_nil]
      exact pointed_of_hasSingles leading
  | cons name more ih =>
      rw [List.flatMap_cons, List.flatMap_cons, List.cons_append, List.cons_append,
        pointed_append leading, ih (singles name List.mem_cons_self)
          fun other member => singles other (List.mem_cons_of_mem _ member), List.cons_append]

theorem lowerChars_of_variableOf (named : lowercase variableName = variableOf (first :: names)) :
    Text.lowerChars variableName.toList = environmentMark ++
      (first.toList ++ names.flatMap fun name => '_' :: '_' :: name.toList) := by
  have mark : environmentMark = "collector".toList ++ ['_', '_'] := rfl
  have lists := congrArg String.toList named
  unfold lowercase variableOf at lists
  rw [String.toList_ofList, String.toList_ofList] at lists
  rw [lists, mark, List.append_assoc, List.flatMap_cons]
  exact congrArg ("collector".toList ++ ·) rfl

theorem environmentKey?_eq (named : lowercase variableName = variableOf (first :: names)) :
    environmentKey? variableName = some (String.ofList (pointed
      (first.toList ++ names.flatMap fun name => '_' :: '_' :: name.toList))) := by
  have lower := lowerChars_of_variableOf named
  have marked : environmentMark.isPrefixOf (Text.lowerChars variableName.toList) = true := by
    rw [lower]
    exact List.isPrefixOf_iff_prefix.mpr (List.prefix_append _ _)
  rw [environmentKey?]
  simp only [marked, if_true]
  rw [lower, List.drop_left]

theorem environmentEntry?_of_key {variableName text key : String} (nonempty : text ≠ "")
    (isKey : environmentKey? variableName = some key) : environmentEntry? (variableName, text) =
      some (key, .leaf (some environmentOrigin) (environmentValue text)) := by
  unfold environmentEntry?
  rw [if_neg nonempty, isKey]
  rfl

/-- A variable that is named for a place has a key that leads there. -/
theorem environmentKey?_of_variableOf (named : lowercase variableName = variableOf (first :: names))
    (nameable : ∀ name ∈ first :: names, IsNameable name) :
    ∃ key, environmentKey? variableName = some key ∧
      KeyPath.ofKey key = (first :: names).map .name := by
  refine ⟨pointedNames first names, ?_, ?_⟩
  · rw [environmentKey?_eq named, pointed_names (nameable first List.mem_cons_self).2.1
      fun name member => (nameable name (List.mem_cons_of_mem _ member)).2.1, pointedNames]
  · exact KeyPath.ofKey_pointedNames (nameable first List.mem_cons_self).1
      fun name member => (nameable name (List.mem_cons_of_mem _ member)).1

end Telemetry.Layer
