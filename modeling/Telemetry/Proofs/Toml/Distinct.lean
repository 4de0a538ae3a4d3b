import Telemetry.Proofs.NameMap
import Telemetry.Toml.Document

/-!
Documents have no key twice. Each table under construction keeps its entries ascending by name, a
finished value keeps them so, and what is read from a text is put together from such values.
-/

namespace Telemetry.Toml

variable {draft after : Draft} {item : Item} {name : String} {names : List String} {origin : Origin}
  {entries : List (String × Item)} {value : Value} {text rest : List Char}

/-- No table in a value has a key twice. -/
inductive Value.Tidy : Value → Prop where
  | string (value : String) : Tidy (.string value)
  | integer (value : Int) : Tidy (.integer value)
  | double (value : Decimal.Double) : Tidy (.double value)
  | bool (value : Bool) : Tidy (.bool value)
  | dateTime (text : String) : Tidy (.dateTime text)
  | array {items : List Value} (each : ∀ item ∈ items, Tidy item) : Tidy (.array items)
  | table {entries : List (String × Value)} (ascending : Ascending entries)
      (each : ∀ entry ∈ entries, Tidy entry.2) : Tidy (.table entries)

inductive Item.Tidy : Item → Prop where
  | value {value : Value} (tidy : value.Tidy) : Tidy (.value value)
  | table (origin : Origin) {entries : List (String × Item)} (ascending : Ascending entries)
      (each : ∀ entry ∈ entries, Tidy entry.2) : Tidy (.table origin entries)
  | tables {elements : List (List (String × Item))}
      (ascending : ∀ entries ∈ elements, Ascending entries)
      (each : ∀ entries ∈ elements, ∀ entry ∈ entries, Tidy entry.2) : Tidy (.tables elements)

namespace Draft

structure Tidy (draft : Draft) : Prop where
  ascending : Ascending draft.entries
  each : ∀ entry ∈ draft.entries, entry.2.Tidy

theorem tidy_empty (origin : Origin) : Tidy ⟨origin, []⟩ := ⟨List.Pairwise.nil, nofun⟩

theorem Tidy.found (tidy : draft.Tidy) (found : draft.find? name = some item) : item.Tidy :=
  tidy.each _ (mem_of_findEntry found)

theorem Tidy.put (tidy : draft.Tidy) (name : String) (itemTidy : item.Tidy) :
    (draft.put name item).Tidy where
  ascending := insertEntry_ascending tidy.ascending
  each entry member := by
    rcases mem_insertEntry member with rfl | member
    · exact itemTidy
    · exact tidy.each entry member

theorem Tidy.table (tidy : draft.Tidy) : Item.Tidy (.table draft.origin draft.entries) :=
  .table draft.origin tidy.ascending tidy.each

/-- A change of one table leaves the tables on the way to it tidy. -/
theorem change_tidy {byKey : Bool} {alter : Draft → Option Draft}
    (keeps : ∀ {before after : Draft}, before.Tidy → alter before = some after → after.Tidy)
    (tidy : draft.Tidy) (changed : change byKey alter names draft = some after) : after.Tidy := by
  induction names generalizing draft after with
  | nil => exact keeps tidy changed
  | cons name names ih =>
      rw [change] at changed
      split at changed
      · obtain ⟨inner, within, rfl⟩ := Option.map_eq_some_iff.mp changed
        exact tidy.put name (ih (tidy_empty _) within).table
      · cases changed
      · rename_i origin entries found
        split at changed
        · cases changed
        · obtain ⟨inner, within, rfl⟩ := Option.map_eq_some_iff.mp changed
          cases tidy.found found with
          | table _ ascending each => exact tidy.put name (ih ⟨ascending, each⟩ within).table
      · rename_i elements found
        split at changed
        · cases changed
        · rename_i last isLast
          obtain ⟨inner, within, rfl⟩ := Option.map_eq_some_iff.mp changed
          cases tidy.found found with
          | tables ascending each =>
              have member := List.mem_of_getLast? isLast
              have innerTidy := ih ⟨ascending last member, each last member⟩ within
              refine tidy.put name (.tables ?_ ?_)
              · intro entries isElement
                rcases List.mem_append.mp isElement with isElement | isElement
                · exact ascending entries (List.dropLast_subset _ isElement)
                · exact List.mem_singleton.mp isElement ▸ innerTidy.ascending
              · intro entries isElement
                rcases List.mem_append.mp isElement with isElement | isElement
                · exact each entries (List.dropLast_subset _ isElement)
                · exact List.mem_singleton.mp isElement ▸ innerTidy.each

theorem openTable_tidy (tidy : draft.Tidy) (opened : openTable name draft = some after) :
    after.Tidy := by
  rw [openTable] at opened
  split at opened
  · cases opened
    exact tidy.put name (tidy_empty .opened).table
  · rename_i entries found
    cases opened
    cases tidy.found found with
    | table _ ascending each => exact tidy.put name (.table _ ascending each)
  · cases opened

theorem openElement_tidy (tidy : draft.Tidy) (opened : openElement name draft = some after) :
    after.Tidy := by
  rw [openElement] at opened
  split at opened
  · cases opened
    exact tidy.put name (.tables (by simp [Ascending]) (by simp))
  · rename_i elements found
    cases opened
    cases tidy.found found with
    | tables ascending each =>
        refine tidy.put name (.tables ?_ ?_)
        · intro entries isElement
          rcases List.mem_append.mp isElement with isElement | isElement
          · exact ascending entries isElement
          · exact List.mem_singleton.mp isElement ▸ List.Pairwise.nil
        · intro entries isElement
          rcases List.mem_append.mp isElement with isElement | isElement
          · exact each entries isElement
          · obtain rfl := List.mem_singleton.mp isElement
            intro entry nothing
            cases nothing
  · cases opened

theorem assign_tidy (valueTidy : value.Tidy) (tidy : draft.Tidy)
    (assigned : assign names value draft = some after) : after.Tidy := by
  rw [assign] at assigned
  split at assigned
  · cases assigned
  · refine change_tidy (fun tidy set => ?_) tidy assigned
    rw [setName] at set
    split at set
    · cases set
    · split at set
      · cases set
        exact tidy.put _ (.value valueTidy)
      · cases set

end Draft

section Finishing

theorem finishEntries_eq_map (entries : List (String × Item)) :
    finishEntries entries = entries.map fun entry => (entry.1, entry.2.finish) := by
  induction entries with
  | nil => rfl
  | cons entry rest ih =>
      obtain ⟨name, item⟩ := entry
      rw [finishEntries, ih, List.map_cons]

theorem finishElements_eq_map (elements : List (List (String × Item))) :
    finishElements elements = elements.map fun entries => .table (finishEntries entries) := by
  induction elements with
  | nil => rfl
  | cons entries rest ih => rw [finishElements, ih, List.map_cons]

theorem finishEntries_ascending (ascending : Ascending entries) :
    Ascending (finishEntries entries) := by
  rw [finishEntries_eq_map]
  exact List.pairwise_map.mpr ascending

theorem forall_finishEntries (each : ∀ entry ∈ entries, entry.2.finish.Tidy) :
    ∀ entry ∈ finishEntries entries, entry.2.Tidy := by
  rw [finishEntries_eq_map]
  intro entry member
  obtain ⟨before, isBefore, rfl⟩ := List.mem_map.mp member
  exact each before isBefore

theorem Item.Tidy.finish (tidy : item.Tidy) : item.finish.Tidy := by
  induction tidy with
  | value tidy => rw [Item.finish]; exact tidy
  | table origin ascending _ ih =>
      rw [Item.finish]
      exact .table (finishEntries_ascending ascending) (forall_finishEntries ih)
  | tables ascending _ ih =>
      rw [Item.finish, finishElements_eq_map]
      refine .array fun item member => ?_
      obtain ⟨entries, isElement, rfl⟩ := List.mem_map.mp member
      exact .table (finishEntries_ascending (ascending entries isElement))
        (forall_finishEntries (ih entries isElement))

theorem Draft.Tidy.finish (tidy : draft.Tidy) :
    Ascending (finishEntries draft.entries) ∧
      ∀ entry ∈ finishEntries draft.entries, entry.2.Tidy :=
  ⟨finishEntries_ascending tidy.ascending,
    forall_finishEntries fun entry member => (tidy.each entry member).finish⟩

end Finishing

section Reading

/-- All values that a reader reads are tidy. -/
def ReadsTidy (reader : Reader Value) : Prop :=
  ∀ {text rest : List Char} {value : Value}, reader text = some (value, rest) → value.Tidy

theorem scalar_tidy : ReadsTidy scalar := by
  intro text rest value reads
  have of_map : ∀ {α : Type} {build : α → Value} {result : Option (α × List Char)},
      (∀ value, (build value).Tidy) →
      result.map (fun (value, rest) => (build value, rest)) = some (value, rest) → value.Tidy := by
    intro α build result each same
    obtain ⟨pair, _, same⟩ := Option.map_eq_some_iff.mp same
    cases same
    exact each _
  have of_word : ∀ {letters : String} {built : Value}, built.Tidy →
      word letters built text = some (value, rest) → value.Tidy := by
    intro letters built tidy same
    rw [word] at same
    split at same
    · cases same
      exact tidy
    · cases same
  unfold scalar at reads
  split at reads
  · cases reads
  · split at reads
    · exact of_map .string reads
    · split at reads
      · exact of_word (.bool true) reads
      · split at reads
        · exact of_word (.bool false) reads
        · split at reads
          · split at reads
            · cases reads
              exact .dateTime _
            · split at reads
              · cases reads
                exact .double _
              · exact of_map .integer reads
          · split at reads
            · exact of_map .double reads
            · cases reads

theorem elements_tidy {element : Reader Value} (each : ReadsTidy element) {allowed : Nat}
    {values : List Value} (reads : elements element allowed text = some (values, rest)) :
    ∀ value ∈ values, value.Tidy := by
  induction allowed generalizing text values rest with
  | zero => cases reads
  | succ allowed ih =>
      rw [elements] at reads
      simp only [Option.bind_eq_bind, Option.bind_eq_some_iff] at reads
      obtain ⟨start, _, reads⟩ := reads
      split at reads
      · cases reads
        exact nofun
      · simp only [Option.bind_eq_some_iff] at reads
        obtain ⟨⟨first, afterFirst⟩, isFirst, next, _, reads⟩ := reads
        split at reads
        · cases reads
          exact List.forall_mem_singleton.mpr (each isFirst)
        · obtain ⟨⟨more, last⟩, isMore, same⟩ := Option.bind_eq_some_iff.mp reads
          cases same
          exact List.forall_mem_cons.mpr ⟨each isFirst, ih isMore⟩
        · cases reads

theorem assignments_tidy {element : Reader Value} (each : ReadsTidy element) {allowed : Nat}
    {pairs : List (List String × Value)}
    (reads : assignments element allowed text = some (pairs, rest)) :
    ∀ pair ∈ pairs, pair.2.Tidy := by
  induction allowed generalizing text pairs rest with
  | zero => cases reads
  | succ allowed ih =>
      rw [assignments] at reads
      simp only [Option.bind_eq_bind, Option.bind_eq_some_iff] at reads
      obtain ⟨⟨names, _⟩, _, ⟨_, _⟩, _, ⟨first, _⟩, isFirst, reads⟩ := reads
      split at reads
      · cases reads
        exact List.forall_mem_singleton.mpr (each isFirst)
      · obtain ⟨⟨more, last⟩, isMore, same⟩ := Option.bind_eq_some_iff.mp reads
        cases same
        exact List.forall_mem_cons.mpr ⟨each isFirst, ih isMore⟩
      · cases reads

/-- What holds at the start and is kept by each step holds at the end. -/
theorem foldlM_keeps {σ α : Type} {step : σ → α → Option σ} {Holds : σ → Prop} {items : List α}
    (keeps : ∀ item ∈ items, ∀ {before after : σ}, Holds before → step before item = some after →
      Holds after) {start finish : σ} (holds : Holds start)
    (done : items.foldlM step start = some finish) : Holds finish := by
  induction items generalizing start with
  | nil => cases done; exact holds
  | cons item items ih =>
      rw [List.foldlM_cons] at done
      obtain ⟨next, stepped, rest⟩ := Option.bind_eq_some_iff.mp done
      exact ih (fun other member => keeps other (List.mem_cons_of_mem _ member))
        (keeps item List.mem_cons_self holds stepped) rest

theorem inlineTable_tidy {pairs : List (List String × Value)} (each : ∀ pair ∈ pairs, pair.2.Tidy)
    (built : inlineTable pairs = some value) : value.Tidy := by
  obtain ⟨draft, done, rfl⟩ := Option.map_eq_some_iff.mp built
  have tidy : draft.Tidy := foldlM_keeps
    (fun pair member _ _ tidy => Draft.assign_tidy (each pair member) tidy)
    (Draft.tidy_empty .opened) done
  exact .table tidy.finish.1 tidy.finish.2

theorem value_tidy (depth : Nat) : ReadsTidy (Toml.value depth) := by
  induction depth with
  | zero =>
      intro text rest value reads
      unfold Toml.value at reads
      split at reads
      · cases reads
      · cases reads
      · rename_i impossible
        exact absurd impossible (Nat.zero_ne_add_one _)
      · rename_i impossible
        exact absurd impossible (Nat.zero_ne_add_one _)
      · exact scalar_tidy reads
  | succ depth ih =>
      intro text rest value reads
      unfold Toml.value at reads
      split at reads
      · cases reads
      · cases reads
      · rename_i same
        obtain rfl := Nat.succ.inj same
        obtain ⟨⟨items, _⟩, isArray, same⟩ := Option.map_eq_some_iff.mp reads
        cases same
        exact .array (elements_tidy ih isArray)
      · rename_i same
        obtain rfl := Nat.succ.inj same
        split at reads
        · cases reads
          exact .table List.Pairwise.nil nofun
        · simp only [Option.bind_eq_bind, Option.bind_eq_some_iff] at reads
          obtain ⟨⟨pairs, _⟩, isPairs, table, built, same⟩ := reads
          cases same
          exact inlineTable_tidy (assignments_tidy ih isPairs) built
      · exact scalar_tidy reads

/-- What a statement assigns is tidy. -/
def Statement.Tidy : Statement → Prop
  | .assign _ value => value.Tidy
  | _ => True

theorem statement_tidy {line : Statement} (reads : statement text = some (line, rest)) :
    line.Tidy := by
  unfold statement at reads
  split at reads
  · simp only [Option.bind_eq_bind, Option.bind_eq_some_iff] at reads
    obtain ⟨_, _, _, _, _, _, same⟩ := reads
    cases same
    trivial
  · simp only [Option.bind_eq_bind, Option.bind_eq_some_iff] at reads
    obtain ⟨_, _, _, _, same⟩ := reads
    cases same
    trivial
  · simp only [Option.bind_eq_bind, Option.bind_eq_some_iff] at reads
    obtain ⟨_, _, _, _, ⟨value, _⟩, isValue, same⟩ := reads
    cases same
    exact value_tidy longestKey isValue

theorem statements_tidy {allowed : Nat} {lines : List Statement}
    (reads : statements allowed text = some lines) : ∀ line ∈ lines, line.Tidy := by
  induction allowed generalizing text lines with
  | zero => cases reads
  | succ allowed ih =>
      unfold statements at reads
      split at reads
      · cases reads
        exact nofun
      · obtain ⟨_, _, reads⟩ := Option.bind_eq_some_iff.mp reads
        exact ih reads
      · exact ih reads
      · obtain ⟨_, _, reads⟩ := Option.bind_eq_some_iff.mp reads
        exact ih reads
      · simp only [Option.bind_eq_bind, Option.bind_eq_some_iff] at reads
        obtain ⟨⟨first, _⟩, isFirst, _, _, more, isMore, same⟩ := reads
        cases same
        exact List.forall_mem_cons.mpr ⟨statement_tidy isFirst, ih isMore⟩

theorem apply_tidy {line : Statement} {before after : Construction} (lineTidy : line.Tidy)
    (tidy : before.root.Tidy) (applied : before.apply line = some after) : after.root.Tidy := by
  cases line with
  | openTable names =>
      simp only [Construction.apply, Option.bind_eq_bind, Option.bind_eq_some_iff] at applied
      obtain ⟨name, _, root, changed, same⟩ := applied
      cases same
      exact Draft.change_tidy Draft.openTable_tidy tidy changed
  | openElement names =>
      simp only [Construction.apply, Option.bind_eq_bind, Option.bind_eq_some_iff] at applied
      obtain ⟨name, _, root, changed, same⟩ := applied
      cases same
      exact Draft.change_tidy Draft.openElement_tidy tidy changed
  | assign names value =>
      simp only [Construction.apply, Option.bind_eq_bind, Option.bind_eq_some_iff] at applied
      obtain ⟨root, changed, same⟩ := applied
      cases same
      exact Draft.change_tidy (Draft.assign_tidy lineTidy) tidy changed

/-- A document has no key twice, in whatever table. -/
theorem parse_tidy {document : List (String × Value)} (parsed : parse text = some document) :
    Ascending document ∧ ∀ entry ∈ document, entry.2.Tidy := by
  simp only [parse, Option.bind_eq_bind, Option.bind_eq_some_iff] at parsed
  obtain ⟨lines, read, construction, done, same⟩ := parsed
  cases same
  have tidy : construction.root.Tidy := foldlM_keeps
    (fun line member _ _ tidy => apply_tidy (statements_tidy read line member) tidy)
    (Draft.tidy_empty .opened) done
  exact tidy.finish

end Reading

end Telemetry.Toml
