import Mathlib.Data.List.Induction
import Telemetry.Proofs.Json.Grammar

/-!
Numerals: the one way in which each whole number is written without a plus and without zeros in
front. Of the texts that are read as a number only its numeral is what is written for it.
-/

namespace Telemetry.Decimal

open Json.Grammar (IsDigits IsWhole)

variable {text digits : List Char} {value : Int}

/-- A whole number as it is written: a minus at most in front, no zero in front of other digits, and
no minus in front of a zero alone. -/
def IsNumeral (text : List Char) : Prop :=
  IsWhole text ∨ ∃ digits, text = '-' :: digits ∧ IsWhole digits ∧ digits ≠ ['0']

theorem digitsValue_concat (digits : List Char) (c : Char) :
    digitsValue (digits ++ [c]) = 10 * digitsValue digits + (c.toNat - '0'.toNat) := by
  rw [digitsValue, List.foldl_append, digitsValue]
  simp only [List.foldl_cons, List.foldl_nil, Nat.mul_comm]

theorem digitsValue_singleton (c : Char) : digitsValue [c] = c.toNat - '0'.toNat := by
  rw [← List.nil_append [c], digitsValue_concat]
  exact Nat.zero_add _

theorem digitsValue_pos {first : Char} {more : List Char}
    (leading : Json.Grammar.IsDigitFrom '1' first) : 0 < digitsValue (first :: more) := by
  induction more using List.reverseRecOn with
  | nil =>
      have least : '1'.toNat ≤ first.toNat := leading.1
      rw [digitsValue_singleton]
      exact Nat.sub_pos_of_lt (Nat.lt_of_lt_of_le (by decide) least)
  | append_singleton more last ih =>
      rw [← List.cons_append, digitsValue_concat]
      omega

theorem digitChar_of_isDigit {c : Char} (digit : Json.Grammar.IsDigitFrom '0' c) :
    c.toNat - '0'.toNat < 10 ∧ (c.toNat - '0'.toNat).digitChar = c := by
  obtain ⟨least, most⟩ := digit
  have zero : '0'.toNat = 48 := rfl
  have nine : '9'.toNat = 57 := rfl
  rw [zero] at least ⊢
  rw [nine] at most
  refine ⟨by omega, ?_⟩
  have code : c = Char.ofNat c.toNat := (Char.ofNat_toNat c).symm
  generalize c.toNat = n at *
  subst code
  have cases : n = 48 ∨ n = 49 ∨ n = 50 ∨ n = 51 ∨ n = 52 ∨ n = 53 ∨ n = 54 ∨ n = 55 ∨ n = 56 ∨
      n = 57 := by omega
  rcases cases with rfl | rfl | rfl | rfl | rfl | rfl | rfl | rfl | rfl | rfl <;> rfl

/-- Digits without zeros in front are the digits of their value. -/
theorem toDigits_digitsValue (whole : IsWhole digits) :
    Nat.toDigits 10 (digitsValue digits) = digits := by
  cases whole with
  | zero => decide
  | @digits first more leading others =>
      induction more using List.reverseRecOn with
      | nil =>
          have digit : Json.Grammar.IsDigitFrom '0' first :=
            ⟨Nat.le_trans (by decide) leading.1, leading.2⟩
          obtain ⟨small, char⟩ := digitChar_of_isDigit digit
          rw [digitsValue_singleton, Nat.toDigits_of_lt_base small, char]
      | append_singleton more last ih =>
          have front := ih fun c member => others c (List.mem_append_left _ member)
          obtain ⟨small, char⟩ := digitChar_of_isDigit (others last (by simp))
          have positive : 0 < digitsValue (first :: more) := digitsValue_pos leading
          rw [← List.cons_append, digitsValue_concat]
          generalize digitsValue (first :: more) = before at *
          generalize last.toNat - '0'.toNat = unit at *
          rw [Nat.toDigits_of_base_le (by decide) (by omega)]
          have quotient : (10 * before + unit) / 10 = before := by omega
          have remainder : (10 * before + unit) % 10 = unit := by omega
          rw [quotient, remainder, front, char]

theorem digitsValue_pos_of_ne_zero (whole : IsWhole digits) (other : digits ≠ ['0']) :
    0 < digitsValue digits := by
  cases whole with
  | zero => exact absurd rfl other
  | digits leading others => exact digitsValue_pos leading

theorem splitSign_of_isWhole (whole : IsWhole digits) : splitSign digits = (false, digits) := by
  cases whole with
  | zero => rfl
  | @digits first more leading others =>
      have least : '1'.toNat ≤ first.toNat := leading.1
      rw [splitSign]
      · intro rest same
        cases same
        exact absurd least (by decide)
      · intro rest same
        cases same
        exact absurd least (by decide)

/-- What `readInt64` reads is made of a sign and of the value of the digits behind it. -/
theorem readInt64_eq_some {negative : Bool} (split : splitSign text = (negative, digits))
    (reads : readInt64 text = some value) :
    value = if negative then -(digitsValue digits : Int) else digitsValue digits := by
  rw [readInt64, split] at reads
  simp only [Option.ite_none_right_eq_some, Option.some.injEq] at reads
  exact reads.2.2.symm

/-- Of the texts that spell a whole number the numeral alone is what is written for it. -/
theorem numeral_iff (reads : readInt64 text = some value) :
    Json.integerText value = text ↔ IsNumeral text := by
  rw [Json.integerText_eq]
  constructor
  · rintro rfl
    have whole := Json.Grammar.isWhole_toDigits value.natAbs
    by_cases negative : value < 0
    · rw [if_pos negative]
      refine .inr ⟨_, rfl, whole, ?_⟩
      intro zero
      have nothing : value.natAbs = digitsValue ['0'] := by
        rw [← zero]
        exact (digitsValue_toDigits value.natAbs).symm
      have none : digitsValue ['0'] = 0 := rfl
      omega
    · rw [if_neg negative]
      exact .inl whole
  · rintro (whole | ⟨digits, rfl, whole, other⟩)
    · have is : value = (digitsValue text : Int) :=
        readInt64_eq_some (splitSign_of_isWhole whole) reads
      rw [is, if_neg (Int.not_lt.mpr (Int.natCast_nonneg _)), Int.natAbs_natCast,
        toDigits_digitsValue whole]
      rfl
    · have is : value = -(digitsValue digits : Int) := readInt64_eq_some rfl reads
      have positive := digitsValue_pos_of_ne_zero whole other
      rw [is, if_pos (by omega), Int.natAbs_neg, Int.natAbs_natCast, toDigits_digitsValue whole]
      rfl

end Telemetry.Decimal
