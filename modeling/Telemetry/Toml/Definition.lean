import Telemetry.NameMap
import Telemetry.Toml.Value

/-!
Definitions of tables. A table may be opened by a header once, be there because a header or a key
leads through it, or be made by a key of several names; which of these it is decides what may still
be added to it.
-/

namespace Telemetry.Toml

/-- How a table came to be. -/
inductive Origin where
  /-- A header leads through it. -/
  | passed
  /-- A header opened it, or it is an element of a list of tables. -/
  | opened
  /-- A key of several names leads through it. -/
  | dotted
deriving DecidableEq, Repr

/-- What a name stands for in a table under construction. -/
inductive Item where
  | value (value : Value)
  | table (origin : Origin) (entries : List (String × Item))
  | tables (elements : List (List (String × Item)))

/-- A table under construction. -/
structure Draft where
  origin : Origin
  entries : List (String × Item)

namespace Draft

def find? (draft : Draft) (name : String) : Option Item := findEntry name draft.entries

/-- Puts an item under a name, in the place of the one that was there. -/
def put (draft : Draft) (name : String) (item : Item) : Draft :=
  { draft with entries := insertEntry name item draft.entries }

/-- Changes the table that names lead to; tables that are missing on the way are made. A key of
several names does not lead through an opened table. -/
def change (byKey : Bool) (alter : Draft → Option Draft) : List String → Draft → Option Draft
  | [], draft => alter draft
  | name :: names, draft =>
      match draft.find? name with
      | none =>
          (change byKey alter names ⟨if byKey then .dotted else .passed, []⟩).map fun inner =>
            draft.put name (.table inner.origin inner.entries)
      | some (.value _) => none
      | some (.table origin entries) =>
          if byKey && origin == .opened then none
          else
            (change byKey alter names ⟨origin, entries⟩).map fun inner =>
              draft.put name (.table inner.origin inner.entries)
      | some (.tables elements) =>
          match elements.getLast? with
          | none => none
          | some last =>
              (change byKey alter names ⟨.opened, last⟩).map fun inner =>
                draft.put name (.tables (elements.dropLast ++ [inner.entries]))

/-- Opens the table of a header, which must not have been opened before nor been made by a key. -/
def openTable (name : String) (draft : Draft) : Option Draft :=
  match draft.find? name with
  | none => some (draft.put name (.table .opened []))
  | some (.table .passed entries) => some (draft.put name (.table .opened entries))
  | some _ => none

/-- Adds an element to a list of tables, which only headers of its kind have made. -/
def openElement (name : String) (draft : Draft) : Option Draft :=
  match draft.find? name with
  | none => some (draft.put name (.tables [[]]))
  | some (.tables elements) => some (draft.put name (.tables (elements ++ [[]])))
  | some _ => none

/-- Sets a name that has not been set before. Behind several names the table must have been made by
keys, behind one name it must not. -/
def setName (several : Bool) (name : String) (value : Value) (draft : Draft) : Option Draft :=
  if (draft.origin == .dotted) != several then none
  else
    match draft.find? name with
    | none => some (draft.put name (.value value))
    | some _ => none

/-- Sets a key to a value. -/
def assign (key : List String) (value : Value) (draft : Draft) : Option Draft :=
  match key.getLast? with
  | none => none
  | some name => change true (setName (1 < key.length) name value) key.dropLast draft

end Draft

mutual

def Item.finish : Item → Value
  | .value value => value
  | .table _ entries => .table (finishEntries entries)
  | .tables elements => .array (finishElements elements)

def finishEntries : List (String × Item) → List (String × Value)
  | [] => []
  | (name, item) :: rest => (name, item.finish) :: finishEntries rest

def finishElements : List (List (String × Item)) → List Value
  | [] => []
  | entries :: rest => .table (finishEntries entries) :: finishElements rest

end

end Telemetry.Toml
