import Telemetry.Json.Typed
import Telemetry.Proofs.Json.Laying
import Telemetry.Proofs.NameMap

/-!
Typed data that comes back from the JSON that was written of it: one lemma for each way of reading,
so that how a type is read back follows how its reader is put together.
-/

namespace Telemetry.Json

/-- What is written of a value is a JSON value as values are held, and is read back as the value. -/
structure RoundTrip (write : α → Json) (read : Json → Except Mismatch α) : Prop where
  exact : ∀ value, (write value).Exact
  back : ∀ value, read (write value) = .ok value

variable {α record draft : Type} {write : α → Json} {read : Json → Except Mismatch α}

namespace RoundTrip

theorem string : RoundTrip .string readString where
  exact := .string
  back _ := rfl

theorem bool : RoundTrip .bool readBool where
  exact := .bool
  back _ := rfl

theorem word (expected : String) :
    RoundTrip (fun value : UInt64 => Json.nat value.toNat) (readWord expected) where
  exact value := by
    have above : -(Decimal.signedBound : Int) ≤ value.toNat := by omega
    have below : (value.toNat : Int) < Decimal.wordBound := Int.ofNat_lt.mpr value.toNat_lt
    refine .integer ?_
    simp only [isKept, Bool.and_eq_true, decide_eq_true_eq]
    exact ⟨above, below⟩
  back value := by
    simp only [Json.nat, readWord]
    rw [if_pos (Int.natCast_nonneg _), Int.toNat_natCast, UInt64.ofNat_toNat]

/-- Nothing is written as null, so null must not stand for anything else. -/
theorem option (trip : RoundTrip write read) (present : ∀ value, write value ≠ .null) :
    RoundTrip (Json.ofOption write) (readOption read) where
  exact
    | none => .null
    | some value => trip.exact value
  back
    | none => rfl
    | some value => by
        rw [Json.ofOption, readOption, trip.back]
        · rfl
        · exact present value

theorem list (trip : RoundTrip write read) :
    RoundTrip (fun values => .array (values.map write)) (readList read) where
  exact values := .array (List.forall_mem_map.mpr fun value _ => trip.exact value)
  back values := by
    rw [readList, List.mapM_map]
    have each : read ∘ write = pure := funext trip.back
    rw [each, List.mapM_pure, List.map_id']
    rfl

theorem readEntries_written (trip : RoundTrip write read) :
    ∀ (entries : List (String × α)) (ascending : Ascending entries),
      readEntries read (entries.map fun entry => (entry.1, write entry.2)) =
        .ok ⟨entries, ascending⟩
  | [], _ => rfl
  | (name, value) :: rest, ascending => by
      obtain ⟨above, restAscending⟩ := List.pairwise_cons.mp ascending
      rw [List.map_cons, readEntries, trip.back, readEntries_written trip rest restAscending]
      -- the names ascend, so an entry goes in front of those that have been read after it
      exact congrArg Except.ok (NameMap.ext (insertEntry_first above))

theorem map (trip : RoundTrip write read) :
    RoundTrip (fun map => .object (map.mapWithName fun _ value => write value).entries)
      (readMap read) where
  exact map := .object (map.mapWithName fun _ value => write value).ascending
    (List.forall_mem_map.mpr fun entry _ => trip.exact entry.2)
  back map := readEntries_written trip map.entries map.ascending

end RoundTrip

/-- Entries that fill in a record: each is written of a value that the field of its name reads
back and puts where it belongs. -/
inductive Fills (fields : List (RecordField Json Mismatch record)) :
    List (String × Json) → record → record → Prop where
  | nil {r : record} : Fills fields [] r r
  | cons {α : Type} {write : α → Json} {read : Json → Except Mismatch α}
      {put : α → record → record} {value : α} {part : Json} {rest : List (String × Json)}
      {r filled : record} (name : String) (trip : RoundTrip write read)
      (written : part = write value)
      (own : RecordField.find? fields name = some (recordField name read put))
      (others : Fills fields rest (put value r) filled) :
      Fills fields ((name, part) :: rest) r filled

namespace Fills

variable {fields : List (RecordField Json Mismatch record)} {entries : List (String × Json)}
  {start filled : record}

theorem exact (fills : Fills fields entries start filled) : ∀ entry ∈ entries, entry.2.Exact := by
  induction fills with
  | nil => nofun
  | cons _ trip written _ _ ih => exact List.forall_mem_cons.mpr ⟨written ▸ trip.exact _, ih⟩

theorem setByName_eq (fills : Fills fields entries start filled) :
    RecordField.setByName fields entries start = .ok filled := by
  induction fills with
  | nil => rfl
  | cons _ trip written own _ ih =>
      rw [RecordField.setByName, own, written]
      simp only [recordField, trip.back, Except.map]
      exact ih

end Fills

namespace RoundTrip

theorem ofRecord {fields : List (RecordField Json Mismatch record)} {start : record}
    {entries : record → List (String × Json)} (name : String)
    (names : ∀ r, ((entries r).map (·.1)).Pairwise (· < ·))
    (fills : ∀ r, Fills fields (entries r) start r) :
    RoundTrip (fun r => .object (entries r)) (readRecord name fields start) where
  exact r := .object (List.pairwise_map.mp (names r)) (fills r).exact
  back r := (fills r).setByName_eq

theorem ofComplete {fields : List (RecordField Json Mismatch draft)} {start : draft}
    {finish : draft → Except String record} {whole : record → draft}
    {entries : record → List (String × Json)} (name : String)
    (names : ∀ r, ((entries r).map (·.1)).Pairwise (· < ·))
    (fills : ∀ r, Fills fields (entries r) start (whole r))
    (finished : ∀ r, finish (whole r) = .ok r) :
    RoundTrip (fun r => .object (entries r)) (readComplete name fields start finish) where
  exact r := .object (List.pairwise_map.mp (names r)) (fills r).exact
  back r := by
    rw [readComplete, (fills r).setByName_eq]
    simp only [bind, Except.bind, finished]
    rfl

end RoundTrip

end Telemetry.Json
