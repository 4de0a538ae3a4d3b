import Mathlib.Algebra.BigOperators.Group.List.Basic
import Mathlib.Tactic.SplitIfs
import Telemetry.Json.Reader
import Telemetry.Proofs.Json.Laying
import Telemetry.Proofs.Json.Numerals

/-!
Strings, numbers and words that are written are read back, whatever comes behind them.
-/

namespace Telemetry.Json.Read

variable {rest : List Char}

theorem length_le_byteCount (text : List Char) : text.length ≤ byteCount text := by
  have sum : byteCount text = (text.map Char.utf8Size).sum := by
    rw [byteCount, List.sum_eq_foldl, List.foldl_map]
  have each : ∀ size ∈ text.map Char.utf8Size, 1 ≤ size := by
    intro size member
    obtain ⟨c, _, rfl⟩ := List.mem_map.mp member
    exact c.utf8Size_pos
  rw [sum, ← List.length_map (f := Char.utf8Size)]
  exact List.length_le_sum_of_one_le _ each

theorem hexValue_hexDigit (n : Nat) : Text.hexValue? (hexDigit n) = some (n % 16) := by
  have each : ∀ m : Fin 16, Text.hexValue? (Nat.digitChar m) = some m.val := by decide
  exact each ⟨n % 16, Nat.mod_lt n (by decide)⟩

theorem escaped_control {c : Char} (control : c.toNat < 0x20) (rest : List Char) :
    escaped ('u' :: '0' :: '0' :: hexDigit (c.toNat / 16) :: hexDigit c.toNat :: rest) =
      .ok (c, rest) := by
  have enough := length_le_byteCount
    ('0' :: '0' :: hexDigit (c.toNat / 16) :: hexDigit c.toNat :: rest)
  simp only [List.length_cons] at enough
  have read : hexFour ('0' :: '0' :: hexDigit (c.toNat / 16) :: hexDigit c.toNat :: rest) =
      .ok (c.toNat, rest) := by
    have zero : Text.hexValue? '0' = some 0 := by decide
    rw [hexFour, if_neg (by omega)]
    simp only [zero, hexValue_hexDigit]
    congr 2
    omega
  have unit : isTrailing c.toNat = false ∧ isLeading c.toNat = false := by
    simp [isTrailing, isLeading]
    omega
  simp [escaped, hexEscape, read, unit.1, unit.2, bind, Except.bind, pure, Except.pure]

/-- One character is read back in one step. -/
theorem stringBody_escape (c : Char) (read : List Char) (steps : Nat) (rest : List Char) :
    stringBody read (steps + 1) (escape c ++ rest) = stringBody (c :: read) steps rest := by
  unfold escape
  split_ifs with quote backslash backspace feed newline carriage tab control
  · subst quote
    simp [stringBody, escaped]
  · subst backslash
    simp [stringBody, escaped]
  · have same : c = Char.ofNat 0x8 := Char.toNat_inj.mp backspace
    subst same
    simp [stringBody, escaped]
  · have same : c = Char.ofNat 0xC := Char.toNat_inj.mp feed
    subst same
    simp [stringBody, escaped]
  · subst newline
    simp [stringBody, escaped]
  · subst carriage
    simp [stringBody, escaped]
  · subst tab
    simp [stringBody, escaped]
  · simp [stringBody, escaped_control control]
  · simp [stringBody, quote, backslash, control]

theorem stringBody_flatMap (text read : List Char) {steps : Nat} (enough : text.length < steps)
    (rest : List Char) :
    stringBody read steps (text.flatMap escape ++ '"' :: rest) =
      .ok (String.ofList (read.reverse ++ text), rest) := by
  induction text generalizing read steps with
  | nil =>
      obtain ⟨more, rfl⟩ := Nat.exists_eq_succ_of_ne_zero (Nat.ne_of_gt enough)
      simp [stringBody]
  | cons c text ih =>
      obtain ⟨more, rfl⟩ := Nat.exists_eq_succ_of_ne_zero (Nat.ne_of_gt (Nat.zero_lt_of_lt enough))
      rw [List.flatMap_cons, List.append_assoc, stringBody_escape,
        ih (c :: read) (Nat.lt_of_succ_lt_succ enough)]
      simp

theorem escape_ne_nil (c : Char) : escape c ≠ [] := by
  unfold escape
  split_ifs <;> simp

theorem length_le_flatMap_escape (text : List Char) :
    text.length ≤ (text.flatMap escape).length := by
  induction text with
  | nil => exact Nat.zero_le _
  | cons c text ih =>
      have := List.length_pos_iff.mpr (escape_ne_nil c)
      rw [List.flatMap_cons, List.length_append, List.length_cons]
      omega

/-- A string after its opening quote is read back. -/
theorem string_of_text (value : String) (rest : List Char) :
    string (value.toList.flatMap escape ++ '"' :: rest) = .ok (value, rest) := by
  have enough := length_le_flatMap_escape value.toList
  rw [string, stringBody_flatMap value.toList [] (by simp only [List.length_append]; omega)]
  simp

theorem scalar_string (value : String) (rest : List Char) :
    scalar (stringText value ++ rest) = .ok (.string value, rest) := by
  have read := string_of_text value rest
  simp [scalar, stringText, read, Except.map]

/-- What comes next does not go on with a number. -/
def EndsNumber (rest : List Char) : Prop :=
  ∀ c ∈ rest.head?, c.isDigit = false ∧ c ≠ '.' ∧ isExponentMark c = false

theorem number_toDigits (negative : Bool) (n : Nat) (ends : EndsNumber rest) :
    number negative (Nat.toDigits 10 n ++ rest) = afterWhole negative (Nat.toDigits 10 n) rest := by
  -- A number that begins with a zero is over there, so zero is told apart.
  rcases Nat.eq_zero_or_pos n with rfl | positive
  · rw [Nat.toDigits_zero]
    cases rest with
    | nil => simp [number]
    | cons c more =>
        have stops := (ends c rfl).1
        simp [number, stops]
  · obtain ⟨first, more, digits, other⟩ := Decimal.toDigits_head positive
    have each : ∀ c ∈ Nat.toDigits 10 n, c.isDigit = true := fun c member =>
      Nat.isDigit_of_mem_toDigits (by decide) (by decide) member
    have leading := each first (by rw [digits]; exact List.mem_cons_self)
    have stops : rest.takeWhile Char.isDigit = [] ∧ rest.dropWhile Char.isDigit = rest := by
      cases rest with
      | nil => exact ⟨rfl, rfl⟩
      | cons c more => simp [(ends c rfl).1]
    have taken : (Nat.toDigits 10 n ++ rest).takeWhile Char.isDigit = Nat.toDigits 10 n := by
      rw [List.takeWhile_append_of_pos each, stops.1, List.append_nil]
    have dropped : (Nat.toDigits 10 n ++ rest).dropWhile Char.isDigit = rest := by
      rw [List.dropWhile_append_of_pos each, stops.2]
    rw [digits, List.cons_append] at taken dropped ⊢
    simp only [number, other, leading, if_false, if_true, taken, dropped]

theorem afterWhole_of_ends (negative : Bool) (whole : List Char) (ends : EndsNumber rest) :
    afterWhole negative whole rest =
      if negative then
        if Decimal.digitsValue whole = 0 ∨ Decimal.signedBound < Decimal.digitsValue whole then
          inRange true (Decimal.digitsValue whole) 0 rest
        else .ok (.integer (-(Decimal.digitsValue whole : Int)), rest)
      else if Decimal.digitsValue whole < Decimal.wordBound then
        .ok (.integer (Decimal.digitsValue whole), rest)
      else inRange false (Decimal.digitsValue whole) 0 rest := by
  cases rest with
  | nil => rfl
  | cons c more =>
      obtain ⟨_, point, mark⟩ := ends c rfl
      unfold afterWhole
      split
      · rename_i same
        exact absurd (List.cons.inj same).1 point
      · simp only [mark]
        rfl

theorem scalar_integer {value : Int} (kept : isKept value = true) (ends : EndsNumber rest) :
    scalar (integerText value ++ rest) = .ok (.integer value, rest) := by
  have bounds : -(Decimal.signedBound : Int) ≤ value ∧ value < (Decimal.wordBound : Int) := by
    simpa [isKept] using kept
  have digits := Decimal.digitsValue_toDigits value.natAbs
  rw [integerText_eq]
  by_cases negative : value < 0
  · have read : number true (Nat.toDigits 10 value.natAbs ++ rest) = .ok (.integer value, rest) := by
      rw [number_toDigits true value.natAbs ends, afterWhole_of_ends true _ ends, digits,
        if_pos rfl, if_neg (by omega)]
      congr 2
      simp only [Json.integer.injEq]
      omega
    simp [negative, scalar, read]
  · have read : number false (Nat.toDigits 10 value.natAbs ++ rest) = .ok (.integer value, rest) := by
      rw [number_toDigits false value.natAbs ends, afterWhole_of_ends false _ ends, digits,
        if_neg (by decide), if_pos (by omega)]
      congr 2
      simp only [Json.integer.injEq]
      omega
    obtain ⟨first, more, text⟩ := List.exists_cons_of_ne_nil (@Nat.toDigits_ne_nil value.natAbs 10)
    have member : first ∈ Nat.toDigits 10 value.natAbs := by rw [text]; exact List.mem_cons_self
    have leading : first.isDigit = true :=
      Nat.isDigit_of_mem_toDigits (by decide) (by decide) member
    have others : ∀ c : Char, c.isDigit = false → first ≠ c := by
      rintro c noDigit rfl
      rw [leading] at noDigit
      cases noDigit
    rw [if_neg negative, List.nil_append]
    rw [text] at read ⊢
    simp only [List.cons_append, scalar, others 'n' (by decide), others 't' (by decide),
      others 'f' (by decide), others '-' (by decide), leading, if_false, if_true]
    exact read

end Telemetry.Json.Read
