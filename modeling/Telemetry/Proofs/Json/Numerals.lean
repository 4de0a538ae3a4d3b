import Telemetry.Json.Printer
import Telemetry.Decimal.Reading

/-!
Texts of whole numbers: a minus for negative ones, and decimal digits of which the first is no zero
unless it is alone.
-/

namespace Telemetry

namespace Decimal

theorem digitsValue_toDigits (n : Nat) : digitsValue (Nat.toDigits 10 n) = n := by
  have read : ∀ text, digitsValue text = Nat.ofDigitChars 10 text 0 := by
    intro text
    simp only [digitsValue, Nat.ofDigitChars_eq_foldl, Nat.mul_comm]
  rw [read, Nat.ofDigitChars_ten_toDigits]

theorem toDigits_head {n : Nat} (positive : 0 < n) :
    ∃ first more, Nat.toDigits 10 n = first :: more ∧ first ≠ '0' := by
  induction n using Nat.strongRecOn with
  | ind n ih =>
      by_cases small : n < 10
      · refine ⟨n.digitChar, [], Nat.toDigits_of_lt_base small, ?_⟩
        rw [ne_eq, Nat.digitChar_eq_zero]
        omega
      · obtain ⟨first, more, leading, other⟩ := ih (n / 10) (by omega) (by omega)
        refine ⟨first, more ++ [(n % 10).digitChar], ?_, other⟩
        rw [Nat.toDigits_of_base_le (by decide) (Nat.le_of_not_lt small), leading, List.cons_append]

end Decimal

namespace Json

theorem integerText_eq (value : Int) :
    integerText value = (if value < 0 then ['-'] else []) ++ Nat.toDigits 10 value.natAbs := by
  cases value with
  | ofNat n =>
      have text : toString (Int.ofNat n) = toString n := rfl
      have least : ¬ Int.ofNat n < 0 := Int.not_lt.mpr (Int.natCast_nonneg n)
      rw [integerText, text, if_neg least, Nat.toString_eq_ofList_toDigits, String.toList_ofList]
      rfl
  | negSucc n =>
      have text : toString (Int.negSucc n) = "-" ++ toString (n + 1) := rfl
      rw [integerText, text, if_pos (Int.negSucc_lt_zero n), Nat.toString_eq_ofList_toDigits,
        String.toList_append]
      simp only [String.toList_ofList]
      rfl

end Json

end Telemetry
