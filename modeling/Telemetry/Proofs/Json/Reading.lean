import Telemetry.Proofs.Json.Grammar
import Telemetry.Proofs.Json.Tokens
import Telemetry.Proofs.NameMap

/-!
Texts of values are read back, with any blanks between their parts.
-/

namespace Telemetry.Json

namespace Read

open Grammar (IsBlank AreBlank)

variable {element : List Char → Except Fault (Json × List Char)} {steps : Nat}
  {text tail more after rest gap : List Char} {c : Char} {item value : Json} {items : List Json}
  {key : String} {fields : List (String × Json)}

theorem isBlankChar_of_isBlank (blank : IsBlank gap) : ∀ c ∈ gap, isBlankChar c = true := by
  intro c member
  have listed := blank c member
  simp only [List.mem_cons, List.not_mem_nil, or_false] at listed
  rcases listed with rfl | rfl | rfl | rfl <;> rfl

theorem skipBlanks_append (blank : IsBlank gap) (text : List Char) :
    skipBlanks (gap ++ text) = skipBlanks text :=
  List.dropWhile_append_of_pos (isBlankChar_of_isBlank blank)

theorem skipBlanks_cons (visible : isBlankChar c = false) : skipBlanks (c :: text) = c :: text := by
  simp [skipBlanks, visible]

theorem skipBlanks_gap (blank : IsBlank gap) (visible : isBlankChar c = false) :
    skipBlanks (gap ++ c :: text) = c :: text := by
  rw [skipBlanks_append blank, skipBlanks_cons visible]

theorem elements_end (first : Bool) (ended : skipBlanks text = ']' :: rest) :
    elements element first (steps + 1) text = .ok ([], rest) := by
  simp [elements, ended]

theorem elements_first (begun : skipBlanks text = c :: more) (goesOn : c ≠ ']')
    (read : element (c :: more) = .ok (item, after))
    (others : elements element false steps after = .ok (items, rest)) :
    elements element true (steps + 1) text = .ok (item :: items, rest) := by
  simp [elements, begun, read, others, bind, Except.bind, pure, Except.pure]

theorem elements_next (comma : skipBlanks text = ',' :: tail) (begun : skipBlanks tail = c :: more)
    (goesOn : c ≠ ']') (read : element (c :: more) = .ok (item, after))
    (others : elements element false steps after = .ok (items, rest)) :
    elements element false (steps + 1) text = .ok (item :: items, rest) := by
  simp [elements, comma, begun, goesOn, read, others, bind, Except.bind, pure, Except.pure]

theorem members_end (first : Bool) (ended : skipBlanks text = '\x7d' :: rest) :
    members element first (steps + 1) text = .ok ([], rest) := by
  simp [members, ended]

theorem members_first {afterKey : List Char} (begun : skipBlanks text = '"' :: more)
    (name : string more = .ok (key, afterKey)) (colon : skipBlanks afterKey = ':' :: tail)
    (read : element tail = .ok (value, after))
    (others : members element false steps after = .ok (fields, rest)) :
    members element true (steps + 1) text = .ok ((key, value) :: fields, rest) := by
  simp [members, begun, name, colon, read, others, bind, Except.bind, pure, Except.pure]

theorem members_next {named afterKey : List Char} (comma : skipBlanks text = ',' :: named)
    (begun : skipBlanks named = '"' :: more) (name : string more = .ok (key, afterKey))
    (colon : skipBlanks afterKey = ':' :: tail) (read : element tail = .ok (value, after))
    (others : members element false steps after = .ok (fields, rest)) :
    members element false (steps + 1) text = .ok ((key, value) :: fields, rest) := by
  simp [members, comma, begun, name, colon, read, others, bind, Except.bind, pure, Except.pure]

theorem value_append_blank (limit : Nat) (blank : IsBlank gap) (text : List Char) :
    Read.value limit (gap ++ text) = Read.value limit text := by
  rw [Read.value.eq_def, Read.value.eq_def, skipBlanks_append blank]

theorem value_scalar (limit : Nat) (visible : isBlankChar c = false) (list : c ≠ '[')
    (object : c ≠ '\x7b') : Read.value limit (c :: more) = scalar (c :: more) := by
  rw [Read.value.eq_def, skipBlanks_cons visible]
  cases limit <;> simp [list, object]

theorem value_list (limit : Nat) :
    Read.value (limit + 1) ('[' :: more) =
      (elements (Read.value limit) true (more.length + 1) more).map
        (fun (items, rest) => (.array items, rest)) := by
  rw [Read.value.eq_def, skipBlanks_cons (by decide)]
  simp

theorem value_object (limit : Nat) :
    Read.value (limit + 1) ('\x7b' :: more) =
      (members (Read.value limit) true (more.length + 1) more).map
        (fun (fields, rest) => (.object (sortFields fields), rest)) := by
  rw [Read.value.eq_def, skipBlanks_cons (by decide)]
  simp

theorem exists_integerText_eq_cons (value : Int) :
    ∃ c more, integerText value = c :: more ∧ isBlankChar c = false ∧
      c ≠ ']' ∧ c ≠ '[' ∧ c ≠ '\x7b' := by
  rw [integerText_eq]
  by_cases negative : value < 0
  · rw [if_pos negative]
    exact ⟨'-', _, rfl, by decide, by decide, by decide, by decide⟩
  · obtain ⟨c, more, text⟩ := List.exists_cons_of_ne_nil (@Nat.toDigits_ne_nil value.natAbs 10)
    have member : c ∈ Nat.toDigits 10 value.natAbs := by rw [text]; exact List.mem_cons_self
    have digit : c.isDigit = true :=
      Nat.isDigit_of_mem_toDigits (by decide) (by decide) member
    have others : ∀ other : Char, other.isDigit = false → c ≠ other := by
      rintro other noDigit rfl
      rw [digit] at noDigit
      cases noDigit
    have visible : isBlankChar c = false := by
      simp [isBlankChar, others ' ' (by decide), others '\n' (by decide), others '\t' (by decide),
        others '\r' (by decide)]
    rw [if_neg negative, List.nil_append, text]
    exact ⟨c, more, rfl, visible, others ']' (by decide), others '[' (by decide),
      others '\x7b' (by decide)⟩

/-- The text of a value begins visibly, and not as the end of a list. -/
theorem exists_laid_eq_cons (gaps : Gaps) (depth : Nat) (exact : value.Exact) :
    ∃ c more, laid gaps depth value = c :: more ∧ isBlankChar c = false ∧ c ≠ ']' := by
  cases exact with
  | null => exact ⟨'n', _, rfl, by decide, by decide⟩
  | bool value =>
      cases value
      · exact ⟨'f', _, rfl, by decide, by decide⟩
      · exact ⟨'t', _, rfl, by decide, by decide⟩
  | @integer value kept =>
      obtain ⟨c, more, text, visible, goesOn, _⟩ := exists_integerText_eq_cons value
      exact ⟨c, more, text, visible, goesOn⟩
  | string value => exact ⟨'"', _, rfl, by decide, by decide⟩
  | @array items each =>
      cases items <;> exact ⟨'[', _, rfl, by decide, by decide⟩
  | @object fields ascending each =>
      cases fields <;> exact ⟨'\x7b', _, rfl, by decide, by decide⟩

theorem endsNumber_append (blank : IsBlank gap) (ends : EndsNumber rest) :
    EndsNumber (gap ++ rest) := by
  cases gap with
  | nil => exact ends
  | cons c gap =>
      intro first isFirst
      cases isFirst
      have listed := blank c List.mem_cons_self
      simp only [List.mem_cons, List.not_mem_nil, or_false] at listed
      rcases listed with rfl | rfl | rfl | rfl <;> decide

theorem endsNumber_cons (mark : c ∈ [',', ']', '\x7d']) : EndsNumber (c :: rest) := by
  intro first isFirst
  cases isFirst
  simp only [List.mem_cons, List.not_mem_nil, or_false] at mark
  rcases mark with rfl | rfl | rfl <;> decide

theorem endsNumber_laidItems {gaps : Gaps} (blank : AreBlank gaps) (depth : Nat)
    (items : List Json) (rest : List Char) :
    EndsNumber (laidItems gaps depth items ++ rest) := by
  cases items with
  | nil =>
      rw [laidItems, List.append_assoc]
      exact endsNumber_append (blank.element depth) (endsNumber_cons (by decide))
  | cons item items => exact endsNumber_cons (by decide)

theorem endsNumber_laidFields {gaps : Gaps} (blank : AreBlank gaps) (depth : Nat)
    (fields : List (String × Json)) (rest : List Char) :
    EndsNumber (laidFields gaps depth fields ++ rest) := by
  cases fields with
  | nil =>
      rw [laidFields, List.append_assoc]
      exact endsNumber_append (blank.element depth) (endsNumber_cons (by decide))
  | cons field fields => exact endsNumber_cons (by decide)

theorem skipBlanks_stringText (blank : IsBlank gap) (key : String) (rest : List Char) :
    skipBlanks (gap ++ (stringText key ++ rest)) =
      '"' :: (key.toList.flatMap escape ++ '"' :: rest) := by
  have text : stringText key ++ rest = '"' :: (key.toList.flatMap escape ++ '"' :: rest) := by
    simp [stringText]
  rw [text]
  exact skipBlanks_gap blank (by decide)

/-- The text of a value is read back, with blanks in front of it and whatever comes behind it. -/
def ReadsBack (element : List Char → Except Fault (Json × List Char)) (gaps : Gaps) (depth : Nat)
    (value : Json) : Prop :=
  ∀ gap rest, IsBlank gap → EndsNumber rest →
    element (gap ++ (laid gaps depth value ++ rest)) = .ok (value, rest)

section Containers

variable {gaps : Gaps} {depth : Nat}

/-- An element behind blanks is found there and read. -/
theorem element_laid (blank : AreBlank gaps) (exact : item.Exact)
    (reads : ReadsBack element gaps (depth + 1) item) (ends : EndsNumber rest) :
    ∃ c more, skipBlanks (gaps.element (depth + 1) ++ (laid gaps (depth + 1) item ++ rest)) =
      c :: more ∧ c ≠ ']' ∧ element (c :: more) = .ok (item, rest) := by
  obtain ⟨c, more, text, visible, goesOn⟩ := exists_laid_eq_cons gaps (depth + 1) exact
  have read := reads [] rest Grammar.isBlank_nil ends
  rw [List.nil_append, text, List.cons_append] at read
  rw [text, List.cons_append]
  exact ⟨c, more ++ rest, skipBlanks_gap (blank.element (depth + 1)) visible, goesOn, read⟩

theorem elements_laidItems (blank : AreBlank gaps) (exact : ∀ item ∈ items, item.Exact)
    (each : ∀ item ∈ items, ReadsBack element gaps (depth + 1) item)
    (enough : items.length < steps) (rest : List Char) :
    elements element false steps (laidItems gaps depth items ++ rest) = .ok (items, rest) := by
  induction items generalizing steps with
  | nil =>
      obtain ⟨steps, rfl⟩ := Nat.exists_eq_succ_of_ne_zero (Nat.ne_of_gt enough)
      rw [laidItems, List.append_assoc]
      exact elements_end false (skipBlanks_gap (blank.element depth) (by decide))
  | cons item items ih =>
      obtain ⟨steps, rfl⟩ := Nat.exists_eq_succ_of_ne_zero (Nat.ne_of_gt (Nat.zero_lt_of_lt enough))
      have others := ih (fun one member => exact one (List.mem_cons_of_mem _ member))
        (fun one member => each one (List.mem_cons_of_mem _ member))
        (Nat.lt_of_succ_lt_succ enough)
      obtain ⟨c, more, begun, goesOn, read⟩ := element_laid blank
        (exact item List.mem_cons_self) (each item List.mem_cons_self)
        (endsNumber_laidItems blank depth items rest)
      rw [laidItems]
      simp only [List.cons_append, List.append_assoc]
      exact elements_next (skipBlanks_cons (by decide)) begun goesOn read others

theorem elements_laid (blank : AreBlank gaps) (exact : ∀ one ∈ item :: items, one.Exact)
    (each : ∀ one ∈ item :: items, ReadsBack element gaps (depth + 1) one)
    (enough : items.length + 1 < steps) (rest : List Char) :
    elements element true steps
      (gaps.element (depth + 1) ++ (laid gaps (depth + 1) item ++
        (laidItems gaps depth items ++ rest))) = .ok (item :: items, rest) := by
  obtain ⟨steps, rfl⟩ := Nat.exists_eq_succ_of_ne_zero (Nat.ne_of_gt (Nat.zero_lt_of_lt enough))
  have others : elements element false steps (laidItems gaps depth items ++ rest) =
      .ok (items, rest) :=
    elements_laidItems blank (fun one member => exact one (List.mem_cons_of_mem _ member))
      (fun one member => each one (List.mem_cons_of_mem _ member))
      (Nat.lt_of_succ_lt_succ enough) rest
  obtain ⟨c, more, begun, goesOn, read⟩ := element_laid blank (exact item List.mem_cons_self)
    (each item List.mem_cons_self) (endsNumber_laidItems blank depth items rest)
  exact elements_first begun goesOn read others

theorem members_laidFields (blank : AreBlank gaps)
    (each : ∀ field ∈ fields, ReadsBack element gaps (depth + 1) field.2)
    (enough : fields.length < steps) (rest : List Char) :
    members element false steps (laidFields gaps depth fields ++ rest) = .ok (fields, rest) := by
  induction fields generalizing steps with
  | nil =>
      obtain ⟨steps, rfl⟩ := Nat.exists_eq_succ_of_ne_zero (Nat.ne_of_gt enough)
      rw [laidFields, List.append_assoc]
      exact members_end false (skipBlanks_gap (blank.element depth) (by decide))
  | cons field fields ih =>
      obtain ⟨steps, rfl⟩ := Nat.exists_eq_succ_of_ne_zero (Nat.ne_of_gt (Nat.zero_lt_of_lt enough))
      have others := ih (fun one member => each one (List.mem_cons_of_mem _ member))
        (Nat.lt_of_succ_lt_succ enough)
      have read := each field List.mem_cons_self gaps.colon _ blank.colon
        (endsNumber_laidFields blank depth fields rest)
      rw [laidFields]
      simp only [List.cons_append, List.append_assoc]
      exact members_next (skipBlanks_cons (by decide))
        (skipBlanks_stringText (blank.element (depth + 1)) field.1 _)
        (string_of_text field.1 _) (skipBlanks_cons (by decide)) read others

theorem members_laid (blank : AreBlank gaps)
    (each : ∀ field ∈ (key, value) :: fields, ReadsBack element gaps (depth + 1) field.2)
    (enough : fields.length + 1 < steps) (rest : List Char) :
    members element true steps
      (gaps.element (depth + 1) ++ (stringText key ++ ':' :: (gaps.colon ++
        (laid gaps (depth + 1) value ++ (laidFields gaps depth fields ++ rest))))) =
      .ok ((key, value) :: fields, rest) := by
  obtain ⟨steps, rfl⟩ := Nat.exists_eq_succ_of_ne_zero (Nat.ne_of_gt (Nat.zero_lt_of_lt enough))
  have others : members element false steps (laidFields gaps depth fields ++ rest) =
      .ok (fields, rest) :=
    members_laidFields blank (fun one member => each one (List.mem_cons_of_mem _ member))
      (Nat.lt_of_succ_lt_succ enough) rest
  have read := each (key, value) List.mem_cons_self gaps.colon _ blank.colon
    (endsNumber_laidFields blank depth fields rest)
  exact members_first (skipBlanks_stringText (blank.element (depth + 1)) key _)
    (string_of_text key _) (skipBlanks_cons (by decide)) read others

theorem length_le_laidItems (gaps : Gaps) (depth : Nat) (items : List Json) :
    items.length < (laidItems gaps depth items).length := by
  induction items with
  | nil => simp [laidItems]
  | cons item items ih =>
      simp only [laidItems, List.length_cons, List.length_append]
      omega

theorem length_le_laidFields (gaps : Gaps) (depth : Nat) (fields : List (String × Json)) :
    fields.length < (laidFields gaps depth fields).length := by
  induction fields with
  | nil => simp [laidFields]
  | cons field fields ih =>
      simp only [laidFields, List.length_cons, List.length_append]
      omega

/-- A value that is nested no deeper than the reader goes is read back from its text. -/
theorem readsBack_laid (blank : AreBlank gaps) (exact : value.Exact) {limit : Nat}
    (within : nesting value ≤ limit) (depth : Nat) :
    ReadsBack (Read.value limit) gaps depth value := by
  induction exact generalizing limit depth with
  | null =>
      intro gap rest blankGap ends
      rw [value_append_blank limit blankGap]
      exact value_scalar limit (by decide) (by decide) (by decide)
  | bool value =>
      intro gap rest blankGap ends
      rw [value_append_blank limit blankGap]
      cases value <;> exact value_scalar limit (by decide) (by decide) (by decide)
  | @integer value kept =>
      intro gap rest blankGap ends
      obtain ⟨c, more, text, visible, _, noList, noObject⟩ := exists_integerText_eq_cons value
      have read := scalar_integer kept ends
      rw [value_append_blank limit blankGap, laid, text, List.cons_append]
      rw [text, List.cons_append] at read
      exact (value_scalar limit visible noList noObject).trans read
  | string value =>
      intro gap rest blankGap ends
      rw [value_append_blank limit blankGap]
      exact (value_scalar limit (by decide) (by decide) (by decide)).trans (scalar_string value rest)
  | @array items exact ih =>
      intro gap rest blankGap ends
      -- A container takes one level of the limit, and fewer steps than its text has characters.
      obtain ⟨limit, rfl⟩ := Nat.exists_eq_succ_of_ne_zero
        (Nat.ne_of_gt (Nat.lt_of_lt_of_le (Nat.succ_pos _) within))
      have inside : ∀ item ∈ items, nesting item ≤ limit := fun item member =>
        Nat.le_trans (nesting_le_nestingItems member) (Nat.le_of_succ_le_succ within)
      rw [value_append_blank _ blankGap]
      cases items with
      | nil =>
          have ended : skipBlanks (']' :: rest) = ']' :: rest := skipBlanks_cons (by decide)
          have text : laid gaps depth (.array []) ++ rest = '[' :: ']' :: rest := rfl
          rw [text, value_list, elements_end true ended]
          rfl
      | cons item items =>
          rw [laid]
          simp only [List.cons_append, List.append_assoc]
          rw [value_list, elements_laid blank exact
            (fun one member => ih one member (inside one member) (depth + 1))]
          · rfl
          · have := length_le_laidItems gaps depth items
            simp only [List.length_append]
            omega
  | @object fields ascending exact ih =>
      intro gap rest blankGap ends
      obtain ⟨limit, rfl⟩ := Nat.exists_eq_succ_of_ne_zero
        (Nat.ne_of_gt (Nat.lt_of_lt_of_le (Nat.succ_pos _) within))
      have inside : ∀ field ∈ fields, nesting field.2 ≤ limit := fun field member =>
        Nat.le_trans (nesting_le_nestingFields member) (Nat.le_of_succ_le_succ within)
      have sorted : sortFields fields = fields := NameMap.entries_ofList ascending
      rw [value_append_blank _ blankGap]
      cases fields with
      | nil =>
          have ended : skipBlanks ('\x7d' :: rest) = '\x7d' :: rest := skipBlanks_cons (by decide)
          have text : laid gaps depth (.object []) ++ rest = '\x7b' :: '\x7d' :: rest := rfl
          rw [text, value_object, members_end true ended]
          rfl
      | cons field fields =>
          rw [laid]
          simp only [List.cons_append, List.append_assoc]
          rw [value_object, members_laid blank
            (fun one member => ih one member (inside one member) (depth + 1))]
          · simp only [Except.map, sorted]
          · have := length_le_laidFields gaps depth fields
            simp only [List.length_append, List.length_cons]
            omega

theorem wholeText_laid (blank : AreBlank gaps) (exact : value.Exact) {limit : Nat}
    (within : nesting value ≤ limit) (blankAfter : IsBlank after) :
    wholeText limit (laid gaps depth value ++ after) = .ok value := by
  have ends : EndsNumber after := by
    rw [← List.append_nil after]
    exact endsNumber_append blankAfter fun c isFirst => by cases isFirst
  have nothing : skipBlanks after = [] := by
    rw [← List.append_nil after, skipBlanks_append blankAfter]
    rfl
  have read := readsBack_laid blank exact within depth [] after Grammar.isBlank_nil ends
  rw [List.nil_append] at read
  simp [wholeText, read, nothing, bind, Except.bind, pure, Except.pure]

end Containers

end Read

/-- What is read from the text of a value is the value, be the text on one line or on many. -/
theorem parse_laid {gaps : Gaps} (blank : Grammar.AreBlank gaps) {value : Json}
    (exact : value.Exact) {limit : Nat} (within : nesting value ≤ limit) (depth : Nat)
    {after : List Char} (blankAfter : Grammar.IsBlank after) :
    parse limit (laid gaps depth value ++ after) = .ok value := by
  rw [parse, Read.wholeText_laid blank exact within blankAfter]

end Telemetry.Json
