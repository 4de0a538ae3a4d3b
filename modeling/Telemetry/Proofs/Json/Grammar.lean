import Mathlib.Tactic.SplitIfs
import Telemetry.Proofs.Json.Laying
import Telemetry.Proofs.Json.Numerals

/-!
The grammar of JSON texts, as the standard of the format has it, and that the texts of values belong
to it.
-/

namespace Telemetry.Json.Grammar

def IsBlank (text : List Char) : Prop := ∀ c ∈ text, c ∈ [' ', '\t', '\n', '\r']

def IsDigitFrom (least c : Char) : Prop := least.toNat ≤ c.toNat ∧ c.toNat ≤ '9'.toNat

def IsDigits (text : List Char) : Prop := ∀ c ∈ text, IsDigitFrom '0' c

/-- A zero, or digits that do not begin with one. -/
inductive IsWhole : List Char → Prop where
  | zero : IsWhole ['0']
  | digits {first : Char} {more : List Char} (leading : IsDigitFrom '1' first)
      (others : IsDigits more) : IsWhole (first :: more)

inductive IsFraction : List Char → Prop where
  | none : IsFraction []
  | digits {text : List Char} (nonempty : text ≠ []) (each : IsDigits text) :
      IsFraction ('.' :: text)

inductive IsExponent : List Char → Prop where
  | none : IsExponent []
  | digits {mark : Char} {sign text : List Char} (marks : mark ∈ ['e', 'E'])
      (signs : sign ∈ [[], ['-'], ['+']]) (nonempty : text ≠ []) (each : IsDigits text) :
      IsExponent (mark :: (sign ++ text))

inductive IsNumber : List Char → Prop where
  | parts {sign whole fraction exponent : List Char} (signs : sign ∈ [[], ['-']])
      (isWhole : IsWhole whole) (isFraction : IsFraction fraction)
      (isExponent : IsExponent exponent) : IsNumber (sign ++ whole ++ fraction ++ exponent)

def IsHexDigit (c : Char) : Prop := c ∈ "0123456789abcdefABCDEF".toList

instance (c : Char) : Decidable (IsHexDigit c) := inferInstanceAs (Decidable (c ∈ _))

/-- What stands for one character of a string. -/
inductive IsCharacter : List Char → Prop where
  | unescaped {c : Char} (visible : 0x20 ≤ c.toNat) (inner : c ≠ '"') (usual : c ≠ '\\') :
      IsCharacter [c]
  | escaped {c : Char} (listed : c ∈ "\"\\/bfnrt".toList) : IsCharacter ['\\', c]
  | numbered {a b c d : Char} (first : IsHexDigit a) (second : IsHexDigit b)
      (third : IsHexDigit c) (fourth : IsHexDigit d) : IsCharacter ['\\', 'u', a, b, c, d]

inductive IsString : List Char → Prop where
  | quoted {characters : List (List Char)} (each : ∀ one ∈ characters, IsCharacter one) :
      IsString ('"' :: (characters.flatten ++ ['"']))

mutual

inductive IsValue : List Char → Prop where
  | null : IsValue "null".toList
  | true : IsValue "true".toList
  | false : IsValue "false".toList
  | number {text : List Char} (isNumber : IsNumber text) : IsValue text
  | string {text : List Char} (isString : IsString text) : IsValue text
  | emptyArray {blank : List Char} (isBlank : IsBlank blank) : IsValue ('[' :: (blank ++ [']']))
  | array {text : List Char} (elements : IsElements text) : IsValue ('[' :: (text ++ [']']))
  | emptyObject {blank : List Char} (isBlank : IsBlank blank) :
      IsValue ('\x7b' :: (blank ++ ['\x7d']))
  | object {text : List Char} (members : IsMembers text) : IsValue ('\x7b' :: (text ++ ['\x7d']))

/-- Values with commas between them, and blanks around each. -/
inductive IsElements : List Char → Prop where
  | last {before value after : List Char} (blankBefore : IsBlank before) (isValue : IsValue value)
      (blankAfter : IsBlank after) : IsElements (before ++ value ++ after)
  | more {before value after others : List Char} (blankBefore : IsBlank before)
      (isValue : IsValue value) (blankAfter : IsBlank after) (elements : IsElements others) :
      IsElements (before ++ value ++ after ++ ',' :: others)

inductive IsMembers : List Char → Prop where
  | last {before name afterName beforeValue value after : List Char} (blankBefore : IsBlank before)
      (isName : IsString name) (blankAfterName : IsBlank afterName)
      (blankBeforeValue : IsBlank beforeValue) (isValue : IsValue value)
      (blankAfter : IsBlank after) :
      IsMembers (before ++ name ++ afterName ++ ':' :: (beforeValue ++ value ++ after))
  | more {before name afterName beforeValue value after others : List Char}
      (blankBefore : IsBlank before) (isName : IsString name) (blankAfterName : IsBlank afterName)
      (blankBeforeValue : IsBlank beforeValue) (isValue : IsValue value)
      (blankAfter : IsBlank after) (members : IsMembers others) :
      IsMembers (before ++ name ++ afterName ++ ':' :: (beforeValue ++ value ++ after ++
        ',' :: others))

end

inductive IsText : List Char → Prop where
  | value {before value after : List Char} (blankBefore : IsBlank before) (isValue : IsValue value)
      (blankAfter : IsBlank after) : IsText (before ++ value ++ after)

theorem isBlank_nil : IsBlank [] := fun _ member => by cases member

theorem isDigits_toDigits (n : Nat) : IsDigits (Nat.toDigits 10 n) := by
  intro c member
  have digit := Nat.isDigit_of_mem_toDigits (by decide) (by decide) member
  simpa [Char.isDigit, IsDigitFrom, UInt32.le_iff_toNat_le] using digit

theorem isWhole_toDigits (n : Nat) : IsWhole (Nat.toDigits 10 n) := by
  rcases Nat.eq_zero_or_pos n with rfl | positive
  · rw [Nat.toDigits_zero]
    exact .zero
  · obtain ⟨first, more, digits, other⟩ := Decimal.toDigits_head positive
    have each := isDigits_toDigits n
    rw [digits] at each ⊢
    obtain ⟨least, greatest⟩ := each first List.mem_cons_self
    have nonzero : '0'.toNat ≠ first.toNat := fun same => other (Char.toNat_inj.mp same).symm
    have leading : '1'.toNat ≤ first.toNat := Nat.lt_of_le_of_ne least nonzero
    exact .digits ⟨leading, greatest⟩ fun c member => each c (List.mem_cons_of_mem _ member)

theorem isNumber_integerText (value : Int) : IsNumber (integerText value) := by
  have signs : (if value < 0 then ['-'] else []) ∈ [[], ['-']] := by split <;> simp
  have parts := IsNumber.parts signs (isWhole_toDigits value.natAbs) .none .none
  rw [integerText_eq]
  simpa using parts

theorem isHexDigit_hexDigit (n : Nat) : IsHexDigit (hexDigit n) := by
  have each : ∀ m : Fin 16, IsHexDigit (Nat.digitChar m) := by decide
  exact each ⟨n % 16, Nat.mod_lt n (by decide)⟩

theorem isCharacter_escape (c : Char) : IsCharacter (escape c) := by
  unfold escape
  split_ifs with quote backslash backspace feed newline carriage tab control
  · exact .escaped (by decide)
  · exact .escaped (by decide)
  · exact .escaped (by decide)
  · exact .escaped (by decide)
  · exact .escaped (by decide)
  · exact .escaped (by decide)
  · exact .escaped (by decide)
  · exact .numbered (by decide) (by decide) (isHexDigit_hexDigit _) (isHexDigit_hexDigit _)
  · exact .unescaped (Nat.le_of_not_lt control) quote backslash

theorem isString_stringText (value : String) : IsString (stringText value) := by
  have each : ∀ one ∈ value.toList.map escape, IsCharacter one := by
    intro one member
    obtain ⟨c, _, rfl⟩ := List.mem_map.mp member
    exact isCharacter_escape c
  have quoted := IsString.quoted each
  rwa [← List.flatMap_def] at quoted

/-- Nothing but blanks stands in the gaps. -/
structure AreBlank (gaps : Gaps) : Prop where
  element : ∀ depth, IsBlank (gaps.element depth)
  colon : IsBlank gaps.colon

theorem areBlank_none : AreBlank .none := ⟨fun _ => isBlank_nil, isBlank_nil⟩

theorem areBlank_lines {indent : List Char} (isBlank : IsBlank indent) :
    AreBlank (.lines indent) where
  element := by
    intro depth c member
    rcases List.mem_cons.mp member with rfl | member
    · decide
    · obtain ⟨piece, isPiece, inPiece⟩ := List.mem_flatten.mp member
      rw [List.eq_of_mem_replicate isPiece] at inPiece
      exact isBlank c inPiece
  colon := by
    intro c member
    rw [List.mem_singleton.mp member]
    decide

variable {gaps : Gaps} {depth : Nat}

theorem isElements_laid (blank : AreBlank gaps) {item : Json} {items : List Json}
    (each : ∀ one ∈ item :: items, IsValue (laid gaps (depth + 1) one)) :
    ∃ text, gaps.element (depth + 1) ++ laid gaps (depth + 1) item ++ laidItems gaps depth items =
      text ++ [']'] ∧ IsElements text := by
  have before := blank.element (depth + 1)
  induction items generalizing item with
  | nil =>
      -- The blanks in front of the end are blanks behind the last value.
      refine ⟨_, ?_, .last before (each item List.mem_cons_self) (blank.element depth)⟩
      rw [laidItems, List.append_assoc _ (gaps.element depth)]
  | cons next items ih =>
      obtain ⟨text, others, elements⟩ := ih fun one member => each one (List.mem_cons_of_mem _ member)
      refine ⟨_, ?_, .more before (each item List.mem_cons_self) isBlank_nil elements⟩
      rw [laidItems, others]
      simp

theorem isMembers_laid (blank : AreBlank gaps) {key : String} {value : Json}
    {fields : List (String × Json)}
    (each : ∀ field ∈ (key, value) :: fields, IsValue (laid gaps (depth + 1) field.2)) :
    ∃ text, gaps.element (depth + 1) ++ stringText key ++ ':' :: (gaps.colon ++
      (laid gaps (depth + 1) value ++ laidFields gaps depth fields)) = text ++ ['\x7d'] ∧
        IsMembers text := by
  have before := blank.element (depth + 1)
  have own := each (key, value) List.mem_cons_self
  induction fields generalizing key value with
  | nil =>
      refine ⟨_, ?_, .last before (isString_stringText key) isBlank_nil blank.colon own
        (blank.element depth)⟩
      simp [laidFields]
  | cons next fields ih =>
      have rest : ∀ field ∈ next :: fields, IsValue (laid gaps (depth + 1) field.2) :=
        fun field member => each field (List.mem_cons_of_mem _ member)
      obtain ⟨text, others, members⟩ := ih rest (rest next List.mem_cons_self)
      refine ⟨_, ?_, .more before (isString_stringText key) isBlank_nil blank.colon own isBlank_nil
        members⟩
      rw [laidFields, others]
      simp

theorem isValue_laid (blank : AreBlank gaps) {value : Json} (exact : value.Exact) (depth : Nat) :
    IsValue (laid gaps depth value) := by
  induction exact generalizing depth with
  | null => exact .null
  | bool value =>
      cases value
      · exact .false
      · exact .true
  | integer kept => exact .number (isNumber_integerText _)
  | string value => exact .string (isString_stringText value)
  | @array items each ih =>
      cases items with
      | nil => exact .emptyArray isBlank_nil
      | cons item items =>
          obtain ⟨text, content, elements⟩ := isElements_laid blank fun one member =>
            ih one member (depth + 1)
          rw [laid, content]
          exact .array elements
  | @object fields ascending each ih =>
      cases fields with
      | nil => exact .emptyObject isBlank_nil
      | cons field fields =>
          obtain ⟨text, content, members⟩ := isMembers_laid blank fun one member =>
            ih one member (depth + 1)
          rw [laid, content]
          exact .object members

/-- Blanks around it leave a text valid. -/
theorem isText_laid (blank : AreBlank gaps) {value : Json} (exact : value.Exact) (depth : Nat)
    {after : List Char} (blankAfter : IsBlank after) : IsText (laid gaps depth value ++ after) :=
  .value isBlank_nil (isValue_laid blank exact depth) blankAfter

end Telemetry.Json.Grammar
