import Telemetry.Json.Printer
import Telemetry.NameMap

/-!
One layout for both texts of a value: blanks may stand in front of the elements of a container, in
front of its end, and behind the colons. Between them the texts are the same.
-/

namespace Telemetry.Json

/-- The blanks that a text has between its parts. -/
structure Gaps where
  /-- In front of an element at a depth. The end of a container is at the depth of the container. -/
  element : Nat → List Char
  colon : List Char

namespace Gaps

def none : Gaps := ⟨fun _ => [], []⟩

def lines (indent : List Char) : Gaps := ⟨newline indent, [' ']⟩

end Gaps

mutual

/-- The text of a value at a depth, with blanks between its parts. -/
def laid (gaps : Gaps) (depth : Nat) : Json → List Char
  | .null => "null".toList
  | .bool true => "true".toList
  | .bool false => "false".toList
  | .integer value => integerText value
  | .double value => doubleText value
  | .string value => stringText value
  | .array [] => ['[', ']']
  | .array (item :: items) =>
      '[' :: (gaps.element (depth + 1) ++ laid gaps (depth + 1) item ++ laidItems gaps depth items)
  | .object [] => ['\x7b', '\x7d']
  | .object ((key, value) :: fields) =>
      '\x7b' :: (gaps.element (depth + 1) ++ stringText key ++ ':' :: (gaps.colon ++
        (laid gaps (depth + 1) value ++ laidFields gaps depth fields)))

def laidItems (gaps : Gaps) (depth : Nat) : List Json → List Char
  | [] => gaps.element depth ++ [']']
  | item :: items =>
      ',' :: (gaps.element (depth + 1) ++ laid gaps (depth + 1) item ++ laidItems gaps depth items)

def laidFields (gaps : Gaps) (depth : Nat) : List (String × Json) → List Char
  | [] => gaps.element depth ++ ['\x7d']
  | (key, value) :: fields =>
      ',' :: (gaps.element (depth + 1) ++ stringText key ++ ':' :: (gaps.colon ++
        (laid gaps (depth + 1) value ++ laidFields gaps depth fields)))

end

mutual

theorem laid_lines (indent : List Char) (depth : Nat) (value : Json) :
    laid (.lines indent) depth value = spread indent depth value := by
  match value with
  | .null | .bool true | .bool false | .integer _ | .double _ | .string _ => rfl
  | .array [] | .object [] => rfl
  | .array (item :: items) =>
      rw [laid, spread, laid_lines indent (depth + 1) item, laidItems_lines indent depth items]
      rfl
  | .object ((key, value) :: fields) =>
      rw [laid, spread, laid_lines indent (depth + 1) value, laidFields_lines indent depth fields]
      rfl

theorem laidItems_lines (indent : List Char) (depth : Nat) (items : List Json) :
    laidItems (.lines indent) depth items = spreadItems indent depth items := by
  match items with
  | [] => rfl
  | item :: items =>
      rw [laidItems, spreadItems, laid_lines indent (depth + 1) item,
        laidItems_lines indent depth items]
      rfl

theorem laidFields_lines (indent : List Char) (depth : Nat) (fields : List (String × Json)) :
    laidFields (.lines indent) depth fields = spreadFields indent depth fields := by
  match fields with
  | [] => rfl
  | (key, value) :: fields =>
      rw [laidFields, spreadFields, laid_lines indent (depth + 1) value,
        laidFields_lines indent depth fields]
      rfl

end

mutual

theorem laid_none (depth : Nat) (value : Json) : laid .none depth value = inline value := by
  match value with
  | .null | .bool true | .bool false | .integer _ | .double _ | .string _ => rfl
  | .array [] | .object [] => rfl
  | .array (item :: items) =>
      rw [laid, inline, laid_none (depth + 1) item, laidItems_none depth items]
      rfl
  | .object ((key, value) :: fields) =>
      rw [laid, inline, laid_none (depth + 1) value, laidFields_none depth fields]
      rfl

theorem laidItems_none (depth : Nat) (items : List Json) :
    laidItems .none depth items = inlineItems items := by
  match items with
  | [] => rfl
  | item :: items =>
      rw [laidItems, inlineItems, laid_none (depth + 1) item, laidItems_none depth items]
      rfl

theorem laidFields_none (depth : Nat) (fields : List (String × Json)) :
    laidFields .none depth fields = inlineFields fields := by
  match fields with
  | [] => rfl
  | (key, value) :: fields =>
      rw [laidFields, inlineFields, laid_none (depth + 1) value, laidFields_none depth fields]
      rfl

end

/-- A value without floating point numbers, as values are held: whole numbers that are kept as
such, and objects with ascending keys. -/
inductive Exact : Json → Prop where
  | null : Exact .null
  | bool (value : Bool) : Exact (.bool value)
  | integer {value : Int} (kept : isKept value = true) : Exact (.integer value)
  | string (value : String) : Exact (.string value)
  | array {items : List Json} (each : ∀ item ∈ items, Exact item) : Exact (.array items)
  | object {fields : List (String × Json)} (ascending : Ascending fields)
      (each : ∀ field ∈ fields, Exact field.2) : Exact (.object fields)

mutual

/-- How deep containers are nested in a value. -/
def nesting : Json → Nat
  | .array items => nestingItems items + 1
  | .object fields => nestingFields fields + 1
  | _ => 0

def nestingItems : List Json → Nat
  | [] => 0
  | item :: items => max (nesting item) (nestingItems items)

def nestingFields : List (String × Json) → Nat
  | [] => 0
  | (_, value) :: fields => max (nesting value) (nestingFields fields)

end

variable {item : Json} {items : List Json} {fields : List (String × Json)} {bound : Nat}

theorem nesting_le_nestingItems (member : item ∈ items) : nesting item ≤ nestingItems items := by
  induction items with
  | nil => cases member
  | cons first items ih =>
      rw [nestingItems]
      rcases List.mem_cons.mp member with rfl | member
      · exact Nat.le_max_left _ _
      · exact Nat.le_trans (ih member) (Nat.le_max_right _ _)

theorem nesting_le_nestingFields {field : String × Json} (member : field ∈ fields) :
    nesting field.2 ≤ nestingFields fields := by
  induction fields with
  | nil => cases member
  | cons first fields ih =>
      obtain ⟨key, value⟩ := first
      rw [nestingFields]
      rcases List.mem_cons.mp member with rfl | member
      · exact Nat.le_max_left _ _
      · exact Nat.le_trans (ih member) (Nat.le_max_right _ _)

theorem nestingFields_le (each : ∀ field ∈ fields, nesting field.2 ≤ bound) :
    nestingFields fields ≤ bound := by
  induction fields with
  | nil => exact Nat.zero_le bound
  | cons field fields ih =>
      obtain ⟨key, value⟩ := field
      exact Nat.max_le.mpr ⟨each _ List.mem_cons_self,
        ih fun other member => each other (List.mem_cons_of_mem _ member)⟩

end Telemetry.Json
