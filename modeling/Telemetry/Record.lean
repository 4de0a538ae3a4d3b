/-!
Records filled from named or numbered parts. Each field says how one part of a source changes the
record; a part under an unknown name is passed over.
-/

namespace Telemetry

/-- One field of a record: its name, and how a part of a source sets it. -/
structure RecordField (source failure record : Type) where
  name : String
  set : source → record → Except failure record

namespace RecordField

variable {source failure record : Type}

def find? (fields : List (RecordField source failure record)) (name : String) :
    Option (RecordField source failure record) :=
  fields.find? (fun field => field.name == name)

/-- Sets fields by name, in the order of the parts; the first failure ends it. -/
def setByName (fields : List (RecordField source failure record)) :
    List (String × source) → record → Except failure record
  | [], r => .ok r
  | (name, part) :: rest, r =>
      match find? fields name with
      | none => setByName fields rest r
      | some field =>
          match field.set part r with
          | .ok r => setByName fields rest r
          | .error reason => .error reason

/-- Sets fields in their own order; parts beyond the last field are left over. -/
def setInOrder : List (RecordField source failure record) → List source → record →
    Except failure record
  | [], _, r => .ok r
  | _, [], r => .ok r
  | field :: fields, part :: parts, r =>
      match field.set part r with
      | .ok r => setInOrder fields parts r
      | .error reason => .error reason

end RecordField

end Telemetry
