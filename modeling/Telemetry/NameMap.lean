/-!
Finite maps from names, held as the list of their entries in ascending order of the names. Two maps
with the same entries are the same map, and the names come out sorted by code points.
-/

namespace Telemetry

/-- Inserts an entry into a list that is ascending by name, in place of an entry of that name. -/
def insertEntry (name : String) (value : α) : List (String × α) → List (String × α)
  | [] => [(name, value)]
  | entry :: rest =>
      if name < entry.1 then (name, value) :: entry :: rest
      else if entry.1 < name then entry :: insertEntry name value rest
      else (name, value) :: rest

def findEntry (name : String) (entries : List (String × α)) : Option α :=
  (entries.find? (fun entry => entry.1 == name)).map (·.2)

/-- The names of the entries ascend strictly. -/
def Ascending (entries : List (String × α)) : Prop :=
  entries.Pairwise (fun before after => before.1 < after.1)

theorem string_lt_trichotomy {a b : String} (notBelow : ¬ a < b) (notAbove : ¬ b < a) : a = b :=
  String.le_antisymm (String.not_lt.mp notAbove) (String.not_lt.mp notBelow)

theorem mem_insertEntry {name : String} {value : α} {entries : List (String × α)}
    {entry : String × α} (member : entry ∈ insertEntry name value entries) :
    entry = (name, value) ∨ entry ∈ entries := by
  induction entries with
  | nil => simpa [insertEntry] using member
  | cons first rest ih =>
      simp only [insertEntry] at member
      split at member
      · simpa using member
      · split at member
        · rcases List.mem_cons.mp member with same | member
          · exact .inr (by simp [same])
          · rcases ih member with same | member
            · exact .inl same
            · exact .inr (by simp [member])
        · rcases List.mem_cons.mp member with same | member
          · exact .inl same
          · exact .inr (by simp [member])

theorem insertEntry_ascending {name : String} {value : α} {entries : List (String × α)}
    (ascending : Ascending entries) : Ascending (insertEntry name value entries) := by
  induction entries with
  | nil => simp [insertEntry, Ascending]
  | cons first rest ih =>
      obtain ⟨below, rest_ascending⟩ := List.pairwise_cons.mp ascending
      simp only [insertEntry]
      split
      · rename_i before
        refine List.pairwise_cons.mpr ⟨?_, ascending⟩
        intro entry member
        rcases List.mem_cons.mp member with rfl | member
        · exact before
        · exact String.lt_trans before (below entry member)
      · split
        · rename_i after
          refine List.pairwise_cons.mpr ⟨?_, ih rest_ascending⟩
          intro entry member
          rcases mem_insertEntry member with rfl | member
          · exact after
          · exact below entry member
        · rename_i notBelow notAbove
          have same : name = first.1 := string_lt_trichotomy notBelow notAbove
          refine List.pairwise_cons.mpr ⟨?_, rest_ascending⟩
          intro entry member
          rw [same]
          exact below entry member

/-- Names in ascending order. -/
def sortedNames (names : List String) : List String := names.mergeSort (fun a b => decide (a ≤ b))

/-- A finite map from names. -/
structure NameMap (α : Type) where
  entries : List (String × α)
  ascending : Ascending entries
deriving DecidableEq

namespace NameMap

variable {α β : Type}

def empty : NameMap α := ⟨[], List.Pairwise.nil⟩

instance : Inhabited (NameMap α) := ⟨empty⟩

instance [Repr α] : Repr (NameMap α) := ⟨fun map depth => reprPrec map.entries depth⟩

def get? (map : NameMap α) (name : String) : Option α := findEntry name map.entries

def contains (map : NameMap α) (name : String) : Bool := (map.get? name).isSome

def names (map : NameMap α) : List String := map.entries.map (·.1)

def size (map : NameMap α) : Nat := map.entries.length

def isEmpty (map : NameMap α) : Bool := map.entries.isEmpty

def insert (map : NameMap α) (name : String) (value : α) : NameMap α :=
  ⟨insertEntry name value map.entries, insertEntry_ascending map.ascending⟩

def erase (map : NameMap α) (name : String) : NameMap α :=
  ⟨map.entries.filter (fun entry => entry.1 != name), map.ascending.filter _⟩

theorem mapWithName_ascending (change : String → α → β) {entries : List (String × α)}
    (ascending : Ascending entries) :
    Ascending (entries.map (fun entry => (entry.1, change entry.1 entry.2))) :=
  List.pairwise_map.mpr ascending

/-- Changes every value, knowing its name. -/
def mapWithName (change : String → α → β) (map : NameMap α) : NameMap β :=
  ⟨map.entries.map (fun entry => (entry.1, change entry.1 entry.2)),
    mapWithName_ascending change map.ascending⟩

/-- The map of a list of entries; of several entries with one name the last one counts. -/
def ofList (entries : List (String × α)) : NameMap α :=
  entries.foldl (fun map entry => map.insert entry.1 entry.2) empty

@[ext] theorem ext {first second : NameMap α} (same : first.entries = second.entries) :
    first = second := by
  cases first; cases second; simp_all

end NameMap

end Telemetry
