import Telemetry.Text.Quoted

/-!
Outlines: values laid out by name for a reader, on one line or with one part a line.
-/

namespace Telemetry.Text

/-- A value as an outline shows it. -/
inductive Outline where
  | atom (text : String)
  | record (name : String) (fields : List (String × Outline))
  | wrapped (name : String) (content : Outline)
  | list (items : List Outline)

namespace Outline

def text (value : String) : Outline := .atom (quoted value)

def bool (value : Bool) : Outline := .atom (if value then "true" else "false")

def nat (value : Nat) : Outline := .atom (toString value)

def option (show? : α → Outline) : Option α → Outline
  | none => .atom "None"
  | some value => .wrapped "Some" (show? value)

def indentation (depth : Nat) : String := String.ofList (List.replicate (4 * depth) ' ')

mutual

/-- The outline on one line. -/
def inline : Outline → String
  | .atom text => text
  | .record name [] => name
  | .record name (field :: fields) =>
      name ++ " \x7b " ++ field.1 ++ ": " ++ inline field.2 ++ inlineFields fields ++ " \x7d"
  | .wrapped name content => name ++ "(" ++ inline content ++ ")"
  | .list [] => "[]"
  | .list (item :: items) => "[" ++ inline item ++ inlineItems items ++ "]"

def inlineFields : List (String × Outline) → String
  | [] => ""
  | field :: fields => ", " ++ field.1 ++ ": " ++ inline field.2 ++ inlineFields fields

def inlineItems : List Outline → String
  | [] => ""
  | item :: items => ", " ++ inline item ++ inlineItems items

end

mutual

/-- The outline with one part a line, its own parts one step further in than the given depth. -/
def spread (depth : Nat) : Outline → String
  | .atom text => text
  | .record name [] => name
  | .record name (field :: fields) =>
      name ++ " \x7b\n" ++ spreadFields depth (field :: fields) ++ indentation depth ++ "\x7d"
  | .wrapped name content =>
      name ++ "(\n" ++ indentation (depth + 1) ++ spread (depth + 1) content ++ ",\n" ++
        indentation depth ++ ")"
  | .list [] => "[]"
  | .list (item :: items) => "[\n" ++ spreadItems depth (item :: items) ++ indentation depth ++ "]"

def spreadFields (depth : Nat) : List (String × Outline) → String
  | [] => ""
  | field :: fields =>
      indentation (depth + 1) ++ field.1 ++ ": " ++ spread (depth + 1) field.2 ++ ",\n" ++
        spreadFields depth fields

def spreadItems (depth : Nat) : List Outline → String
  | [] => ""
  | item :: items =>
      indentation (depth + 1) ++ spread (depth + 1) item ++ ",\n" ++ spreadItems depth items

end

/-- An outline on one line or, when spread out, with one part a line. -/
def render (spreadOut : Bool) (outline : Outline) : String :=
  if spreadOut then spread 0 outline else inline outline

end Outline

end Telemetry.Text
