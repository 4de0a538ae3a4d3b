import Telemetry.Proofs.Layer.Spelling

/-!
Keys whose names are joined to anything. The first name of a part ends where a character stands that
no name has, and what follows it is read as further steps.
-/

namespace Telemetry.Layer

open KeyPath (index isNameChar isSpace parse steps)
open Text (IsLower lowercase)

variable {name key : String} {text rest : List Char} {path : List PathStep} {allowed other : Nat}
  {position : Int}

/-- The plain name that a text starts with; empty if it starts with none. -/
def leadingName (name : String) : String := String.ofList (name.toList.takeWhile isNameChar)

/-- Of the characters that may follow a name none is a name's. -/
def EndsName (rest : List Char) : Prop := ∀ c ∈ rest.head?, isNameChar c = false

theorem endsName_nil : EndsName [] := nofun

theorem takeWhile_name (plain : ∀ c ∈ text, isNameChar c = true) (ends : EndsName rest) :
    (text ++ rest).takeWhile isNameChar = text := by
  rw [List.takeWhile_append_of_pos plain]
  cases rest with
  | nil => exact List.append_nil _
  | cons c rest => rw [List.takeWhile_cons, ends c rfl]; exact List.append_nil _

theorem leadingName_of_isPlain (plain : IsPlain name) : leadingName name = name := by
  have whole := takeWhile_name plain.2 endsName_nil
  rw [List.append_nil] at whole
  rw [leadingName, whole, String.ofList_toList]

/-- A name that is read off a text is the plain name that the text starts with. -/
theorem leadingName_append {first : String} {suffix : List Char} (plain : IsPlain first)
    (ends : EndsName rest) (suffixEnds : EndsName suffix)
    (same : name.toList ++ suffix = first.toList ++ rest) : leadingName name = first := by
  have taken := congrArg (List.takeWhile isNameChar) same
  rw [takeWhile_name plain.2 ends, List.takeWhile_append] at taken
  rw [leadingName]
  split at taken
  · rename_i whole
    have all := List.takeWhile_prefix (l := name.toList) isNameChar |>.eq_of_length whole
    cases suffix with
    | nil =>
        rw [List.takeWhile_nil, List.append_nil] at taken
        rw [all, taken, String.ofList_toList]
    | cons c more =>
        rw [List.takeWhile_cons, suffixEnds c rfl] at taken
        simp only [Bool.false_eq_true, if_false, List.append_nil] at taken
        rw [all, taken, String.ofList_toList]
  · rw [taken, String.ofList_toList]

namespace KeyPath

/-- A text spells steps: names after points, and indices in brackets. -/
inductive Spells : List Char → List PathStep → Prop where
  | done : Spells [] []
  | name {name : String} {rest : List Char} {path : List PathStep} (plain : IsPlain name)
      (ends : EndsName rest) (spells : Spells rest path) :
      Spells ('.' :: (name.toList ++ rest)) (.name name :: path)
  | index {body rest : List Char} {position : Int} {path : List PathStep}
      (reads : KeyPath.index body = .ok (position, rest)) (spells : Spells rest path) :
      Spells ('[' :: body) (.index position :: path)

theorem index_eq_ok (reads : index text = .ok (position, rest)) : rest <:+ text := by
  have ending : ∀ {body : List Char} {count : Nat},
      (body.drop count).dropWhile isSpace = ']' :: rest → rest <:+ body := fun ends =>
    (List.suffix_cons ']' rest).trans
      (ends ▸ (List.dropWhile_suffix _).trans (List.drop_suffix _ _))
  have blanks : text.dropWhile isSpace <:+ text := List.dropWhile_suffix _
  unfold index at reads
  simp only at reads
  split at reads
  · rename_i body minus
    simp only [if_true] at reads
    have within : body <:+ text := (List.suffix_cons '-' body).trans (minus ▸ blanks)
    split at reads
    · cases reads
    · split at reads
      · cases reads
      · split at reads
        · rename_i ends
          cases reads
          exact (ending ends).trans within
        · cases reads
  · simp only [Bool.false_eq_true, if_false] at reads
    split at reads
    · cases reads
    · split at reads
      · cases reads
      · split at reads
        · rename_i ends
          cases reads
          exact (ending ends).trans blanks
        · cases reads

/-- The name that a text starts with, and what follows it. -/
theorem split_name (some : (text.takeWhile isNameChar).isEmpty = false) :
    ∃ name rest, IsPlain name ∧ EndsName rest ∧ text = name.toList ++ rest ∧
      text.takeWhile isNameChar = name.toList ∧
      text.drop (text.takeWhile isNameChar).length = rest := by
  have whole : text.takeWhile isNameChar ++ text.dropWhile isNameChar = text :=
    List.takeWhile_append_dropWhile
  refine ⟨String.ofList (text.takeWhile isNameChar), text.dropWhile isNameChar, ⟨?_, ?_⟩, ?_, ?_,
    ?_, ?_⟩
  · intro nothing
    have empty := congrArg String.toList nothing
    rw [String.toList_ofList] at empty
    rw [empty] at some
    cases some
  · rw [String.toList_ofList]
    exact List.all_eq_true.mp List.all_takeWhile
  · intro c isHead
    have next := List.head?_dropWhile_not isNameChar text
    rw [isHead] at next
    exact next
  · rw [String.toList_ofList, whole]
  · rw [String.toList_ofList]
  · conv => lhs; arg 2; rw [← whole]
    exact List.drop_left

theorem map_eq_ok {ε α β : Type} {change : α → β} {result : Except ε α} {value : β}
    (same : result.map change = .ok value) :
    ∃ before, result = .ok before ∧ value = change before := by
  cases result with
  | error reason => cases same
  | ok before => cases same; exact ⟨before, rfl, rfl⟩

theorem spells_of_steps (enough : text.length ≤ allowed) (reads : steps allowed text = .ok path) :
    Spells text path := by
  induction allowed generalizing text path with
  | zero =>
      obtain rfl := List.length_eq_zero_iff.mp (Nat.le_zero.mp enough)
      cases reads
      exact .done
  | succ allowed ih =>
      cases text with
      | nil => cases reads; exact .done
      | cons c text =>
          have shorter : text.length ≤ allowed := Nat.le_of_succ_le_succ enough
          by_cases point : c = '.'
          · subst point
            simp only [steps] at reads
            split at reads
            · cases reads
            · rename_i some
              obtain ⟨name, rest, plain, ends, rfl, taken, left⟩ :=
                split_name (Bool.not_eq_true _ ▸ some)
              rw [taken] at left
              rw [taken, String.ofList_toList, left] at reads
              obtain ⟨more, spelt, rfl⟩ := map_eq_ok reads
              refine .name plain ends (ih ?_ spelt)
              rw [List.length_append] at shorter
              omega
          · by_cases bracket : c = '['
            · subst bracket
              simp only [steps] at reads
              split at reads
              · cases reads
              · rename_i position rest isIndex
                obtain ⟨more, spelt, rfl⟩ := map_eq_ok reads
                exact .index isIndex
                  (ih (Nat.le_trans (index_eq_ok isIndex).length_le shorter) spelt)
            · rw [steps] at reads
              · cases reads
              · intro same
                cases same
              · intro rest same
                exact point (List.cons.inj same).1
              · intro rest same
                exact bracket (List.cons.inj same).1

/-- A key spells a name and steps that follow it. -/
theorem spells_of_parse (parsed : parse key = .ok path) :
    ∃ first rest more, IsPlain first ∧ EndsName rest ∧ key.toList = first.toList ++ rest ∧
      path = .name first :: more ∧ Spells rest more := by
  simp only [parse] at parsed
  split at parsed
  · cases parsed
  · rename_i some
    obtain ⟨name, rest, plain, ends, whole, taken, left⟩ := split_name (Bool.not_eq_true _ ▸ some)
    rw [taken] at left
    rw [taken, String.ofList_toList, left] at parsed
    obtain ⟨more, spelt, rfl⟩ := map_eq_ok parsed
    refine ⟨name, rest, more, plain, ends, whole, rfl, spells_of_steps ?_ spelt⟩
    rw [whole, List.length_append]
    exact Nat.le_add_left _ _

/-- The names of a path are plain, and made of what is read. -/
theorem Spells.names (spells : Spells text path) (member : .name name ∈ path) :
    IsPlain name ∧ ∀ c ∈ name.toList, c ∈ text := by
  induction spells with
  | done => cases member
  | @name first rest path plain ends _ ih =>
      rcases List.mem_cons.mp member with same | member
      · cases same
        exact ⟨plain, fun c member => List.mem_cons_of_mem _ (List.mem_append_left _ member)⟩
      · obtain ⟨own, chars⟩ := ih member
        exact ⟨own, fun c member =>
          List.mem_cons_of_mem _ (List.mem_append_right _ (chars c member))⟩
  | @index body rest position path reads _ ih =>
      rcases List.mem_cons.mp member with same | member
      · cases same
      · obtain ⟨own, chars⟩ := ih member
        exact ⟨own, fun c member =>
          List.mem_cons_of_mem _ ((index_eq_ok reads).subset (chars c member))⟩

/-- What follows a name that a text starts with is spelt by the rest of the path. -/
theorem Spells.name_cases {suffix : List Char} (ends : EndsName suffix)
    (spells : Spells ('.' :: (name.toList ++ suffix)) path) :
    ∃ more, path = .name (leadingName name) :: more ∧ IsPlain (leadingName name) ∧
      (IsPlain name → Spells suffix more) := by
  generalize whole : '.' :: (name.toList ++ suffix) = text at spells
  cases spells with
  | done => cases whole
  | index => cases whole
  | @name first rest more plain restEnds spells =>
      have same : name.toList ++ suffix = first.toList ++ rest := (List.cons.inj whole).2
      have leading := leadingName_append plain restEnds ends same
      refine ⟨more, by rw [leading], leading ▸ plain, fun isPlain => ?_⟩
      rw [leadingName_of_isPlain isPlain] at leading
      subst leading
      rw [List.append_cancel_left same]
      exact spells

theorem Spells.names_append {suffix : List Char} {names : List String}
    (plain : ∀ name ∈ names, IsPlain name) (ends : EndsName suffix)
    (spells : Spells ((names.flatMap fun name => '.' :: name.toList) ++ suffix) path) :
    ∃ more, path = names.map .name ++ more ∧ Spells suffix more := by
  induction names generalizing path with
  | nil => exact ⟨path, rfl, spells⟩
  | cons name names ih =>
      have restEnds : EndsName ((names.flatMap fun name => '.' :: name.toList) ++ suffix) := by
        cases names with
        | nil => exact ends
        | cons next more => rintro c ⟨⟩; rfl
      rw [List.flatMap_cons, List.append_assoc, List.cons_append] at spells
      have own := plain name List.mem_cons_self
      obtain ⟨more, rfl, -, rest⟩ := spells.name_cases restEnds
      obtain ⟨more, rfl, spelt⟩ :=
        ih (fun name member => plain name (List.mem_cons_of_mem _ member)) (rest own)
      exact ⟨more, by rw [leadingName_of_isPlain own]; rfl, spelt⟩

theorem isSpace_eq_false {c : Char} (digit : c.isDigit = true) : isSpace c = false := by
  have others : ∀ other : Char, other.isDigit = false → c ≠ other := by
    rintro other none rfl
    rw [digit] at none
    cases none
  simp only [isSpace, Bool.or_eq_false_iff, beq_eq_false_iff_ne]
  exact ⟨⟨⟨others _ rfl, others _ rfl⟩, others _ rfl⟩, others _ rfl⟩

/-- What follows the first name of a key is spelt by the rest of the path. -/
theorem rest_of_parse {first : String} (leading : IsPlain first) (ends : EndsName rest)
    (whole : key.toList = first.toList ++ rest) (parsed : parse key = .ok path) :
    ∃ more, path = .name first :: more ∧ Spells rest more := by
  obtain ⟨other, left, more, plain, leftEnds, same, rfl, spells⟩ := spells_of_parse parsed
  have name := leadingName_append plain leftEnds ends (whole.symm.trans same)
  rw [leadingName_of_isPlain leading] at name
  subst name
  rw [List.append_cancel_left (whole.symm.trans same)]
  exact ⟨more, rfl, spells⟩

theorem index_digits {digits : List Char} (some : digits ≠ [])
    (each : ∀ c ∈ digits, c.isDigit = true)
    (reads : index (digits ++ [']']) = .ok (position, rest)) :
    position = Decimal.digitsValue digits ∧ rest = [] := by
  have taken : (digits ++ [']']).takeWhile Char.isDigit = digits := by
    rw [List.takeWhile_append_of_pos each]
    exact List.append_nil _
  have body : (digits ++ [']']).dropWhile isSpace = digits ++ [']'] ∧
      ∀ rest, digits ++ [']'] ≠ '-' :: rest := by
    cases digits with
    | nil => exact absurd rfl some
    | cons first more =>
        have digit := each first List.mem_cons_self
        rw [List.cons_append, List.dropWhile_cons, isSpace_eq_false digit]
        refine ⟨rfl, fun rest same => ?_⟩
        rw [(List.cons.inj same).1] at digit
        exact absurd digit (by decide)
  have ending : ([']'] : List Char).dropWhile isSpace = [']'] := rfl
  unfold index at reads
  simp only [body.1] at reads
  split at reads
  · rename_i minus
    exact absurd minus (body.2 _)
  · simp only [taken, List.drop_left, ending, List.isEmpty_eq_false_iff.mpr some,
      Bool.false_eq_true, if_false] at reads
    split at reads
    · cases reads
    · cases reads
      exact ⟨rfl, rfl⟩

theorem Spells.index_cases {digits : List Char} (some : digits ≠ [])
    (each : ∀ c ∈ digits, c.isDigit = true) (spells : Spells ('[' :: (digits ++ [']'])) path) :
    path = [.index (Decimal.digitsValue digits)] := by
  generalize whole : '[' :: (digits ++ [']']) = text at spells
  cases spells with
  | done => cases whole
  | name => cases whole
  | @index body rest position more reads spells =>
      obtain rfl := (List.cons.inj whole).2
      obtain ⟨rfl, rfl⟩ := index_digits some each reads
      cases spells
      rfl

end KeyPath

end Telemetry.Layer
