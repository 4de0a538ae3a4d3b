import Telemetry.Proofs.Json.Grammar

/-!
The text of a value on one line has no line break in it, whatever strings the value holds.
-/

namespace Telemetry

theorem Decimal.newline_not_mem_toString (n : Nat) : '\n' ∉ (toString n).toList := by
  rw [Nat.toString_eq_ofList_toDigits, String.toList_ofList]
  exact fun member =>
    absurd (Nat.isDigit_of_mem_toDigits (by decide) (by decide) member) (by decide)

theorem Json.newline_not_mem_integerText (value : Int) : '\n' ∉ integerText value := by
  have digits := Decimal.newline_not_mem_toString value.natAbs
  rw [Nat.toString_eq_ofList_toDigits, String.toList_ofList] at digits
  rw [integerText_eq]
  split <;> simp [digits]

namespace Decimal.Layout

variable {layout : Layout} {digits : String}

theorem newline_not_mem_pointed (whole : '\n' ∉ layout.wholeEnd.toList)
    (unbroken : '\n' ∉ digits.toList) (place : Int) :
    '\n' ∉ (layout.pointed digits place).toList := by
  have taken : ∀ count, '\n' ∉ digits.toList.take count := fun count member =>
    unbroken (List.mem_of_mem_take member)
  have dropped : ∀ count, '\n' ∉ digits.toList.drop count := fun count member =>
    unbroken (List.mem_of_mem_drop member)
  simp only [pointed]
  split_ifs
  · simp [unbroken]
  · simp [unbroken, whole]
  · simp [taken, dropped]

theorem newline_not_mem_scientific (sign : '\n' ∉ layout.positiveExponent.toList)
    (unbroken : '\n' ∉ digits.toList) (exponent : Int) :
    '\n' ∉ (layout.scientific digits exponent).toList := by
  have power : '\n' ∉ (toString exponent).toList :=
    Json.newline_not_mem_integerText exponent
  have signed : '\n' ∉ (if 0 ≤ exponent then layout.positiveExponent else "").toList := by
    split <;> simp [sign]
  simp only [scientific]
  split
  · rename_i first second rest cut
    rw [cut] at unbroken
    simp_all
  · simp_all

theorem newline_not_mem_number (whole : '\n' ∉ layout.wholeEnd.toList)
    (sign : '\n' ∉ layout.positiveExponent.toList) (negative : Bool) (significand : Nat)
    (exponent : Int) : '\n' ∉ (layout.number (.finite negative significand exponent)).toList := by
  have minus : '\n' ∉ (if negative then "-" else "").toList := by cases negative <;> decide
  have digits : ∀ d : Digits, '\n' ∉ (layout.decimal d).toList := by
    intro d
    have unbroken := newline_not_mem_toString d.digits
    simp only [decimal]
    split
    · exact newline_not_mem_pointed whole unbroken _
    · split
      · exact newline_not_mem_pointed whole unbroken _
      · exact newline_not_mem_scientific sign unbroken _
  have body : '\n' ∉ (if significand = 0 then "0" ++ layout.wholeEnd
      else layout.decimal (shortest layout.tie significand exponent)).toList := by
    split
    · simp [whole]
    · exact digits _
  rw [number, String.toList_append, List.mem_append, not_or]
  exact ⟨minus, body⟩

end Decimal.Layout

namespace Json

theorem newline_not_mem_doubleText (value : Decimal.Double) : '\n' ∉ doubleText value := by
  cases value with
  | finite negative significand exponent =>
      exact Decimal.Layout.newline_not_mem_number (by decide) (by decide) _ _ _
  | infinite negative => exact fun member => absurd member (by decide : '\n' ∉ "null".toList)
  | nan => exact fun member => absurd member (by decide : '\n' ∉ "null".toList)

theorem newline_not_mem_escape (c : Char) : '\n' ∉ escape c := by
  have digit : ∀ n, '\n' ≠ hexDigit n := by
    intro n same
    have isDigit := Grammar.isHexDigit_hexDigit n
    rw [← same] at isDigit
    exact absurd isDigit (by decide)
  unfold escape
  split_ifs <;> simp_all [Ne.symm]

theorem newline_not_mem_stringText (value : String) : '\n' ∉ stringText value := by
  simp [stringText, newline_not_mem_escape]

mutual

theorem newline_not_mem_inline (value : Json) : '\n' ∉ inline value := by
  match value with
  | .null | .bool true | .bool false | .array [] | .object [] => decide
  | .integer value => exact newline_not_mem_integerText value
  | .double value => exact newline_not_mem_doubleText value
  | .string value => exact newline_not_mem_stringText value
  | .array (item :: items) =>
      simp [inline, newline_not_mem_inline item, newline_not_mem_inlineItems items]
  | .object ((key, value) :: fields) =>
      simp [inline, newline_not_mem_stringText key, newline_not_mem_inline value,
        newline_not_mem_inlineFields fields]

theorem newline_not_mem_inlineItems (items : List Json) : '\n' ∉ inlineItems items := by
  match items with
  | [] => decide
  | item :: items =>
      simp [inlineItems, newline_not_mem_inline item, newline_not_mem_inlineItems items]

theorem newline_not_mem_inlineFields (fields : List (String × Json)) :
    '\n' ∉ inlineFields fields := by
  match fields with
  | [] => decide
  | (key, value) :: fields =>
      simp [inlineFields, newline_not_mem_stringText key, newline_not_mem_inline value,
        newline_not_mem_inlineFields fields]

end

end Json

end Telemetry
