import Mathlib.Data.List.Basic
import Mathlib.Tactic.SplitIfs
import Telemetry.Text.Quoted

/-!
Quoting loses nothing: two strings that are quoted alike are the same string.
-/

namespace Telemetry.Text.Quoted

/-- The characters with an escape of one letter, after that letter. -/
def letterEscapes : List (Char × Char) :=
  [('"', '"'), ('\\', '\\'), ('n', '\n'), ('r', '\r'), ('t', '\t'), ('0', '\x00')]

theorem letterEscapes_functional {letter c other : Char} (one : (letter, c) ∈ letterEscapes)
    (another : (letter, other) ∈ letterEscapes) : c = other := by
  have alike : ∀ entry ∈ letterEscapes, ∀ entry' ∈ letterEscapes,
      entry.1 = entry'.1 → entry.2 = entry'.2 := by decide
  exact alike _ one _ another rfl

theorem letterEscapes_ne_u {letter c : Char} (listed : (letter, c) ∈ letterEscapes) :
    letter ≠ 'u' := by
  have others : ∀ entry ∈ letterEscapes, entry.1 ≠ 'u' := by decide
  exact others _ listed

theorem digitChar_injective {first second : Nat} (small : first < 16) (small' : second < 16)
    (same : first.digitChar = second.digitChar) : first = second := by
  have alike : ∀ m n : Fin 16, m.val.digitChar = n.val.digitChar → m = n := by decide
  exact congrArg Fin.val (alike ⟨first, small⟩ ⟨second, small'⟩ same)

theorem hexDigits_injective {first second : Nat} (same : hexDigits first = hexDigits second) :
    first = second := by
  unfold hexDigits at same
  induction first using Nat.strongRecOn generalizing second with
  | ind first ih =>
      by_cases short : first < 16 <;> by_cases short' : second < 16
      · rw [Nat.toDigits_of_lt_base short, Nat.toDigits_of_lt_base short'] at same
        exact digitChar_injective short short' (List.singleton_inj.mp same)
      · rw [Nat.toDigits_of_lt_base short,
          Nat.toDigits_of_base_le (by decide) (Nat.le_of_not_lt short')] at same
        -- One digit is not as long as two or more.
        have sizes := congrArg List.length same
        have := @Nat.length_toDigits_pos 16 (second / 16)
        simp only [List.length_append, List.length_singleton] at sizes
        omega
      · rw [Nat.toDigits_of_lt_base short',
          Nat.toDigits_of_base_le (by decide) (Nat.le_of_not_lt short)] at same
        have sizes := congrArg List.length same
        have := @Nat.length_toDigits_pos 16 (first / 16)
        simp only [List.length_append, List.length_singleton] at sizes
        omega
      · rw [Nat.toDigits_of_base_le (by decide) (Nat.le_of_not_lt short),
          Nat.toDigits_of_base_le (by decide) (Nat.le_of_not_lt short')] at same
        obtain ⟨leading, last⟩ := List.append_inj' same rfl
        have quotients := ih (first / 16) (by omega) leading
        have remainders := digitChar_injective (Nat.mod_lt _ (by decide))
          (Nat.mod_lt _ (by decide)) (List.singleton_inj.mp last)
        omega

theorem brace_not_mem_hexDigits (n : Nat) : '\x7d' ∉ hexDigits n := by
  unfold hexDigits
  induction n using Nat.strongRecOn with
  | ind n ih =>
      by_cases short : n < 16
      · rw [Nat.toDigits_of_lt_base short, List.mem_singleton]
        exact (Nat.digitChar_ne _ (by decide)).symm
      · rw [Nat.toDigits_of_base_le (by decide) (Nat.le_of_not_lt short), List.mem_append,
          List.mem_singleton]
        rintro (leading | last)
        · exact ih (n / 16) (by omega) leading
        · exact (Nat.digitChar_ne _ (by decide)).symm last

/-- Two texts that go on with a mark they do not have are one text. -/
theorem append_mark_inj {mark : Char} {first second rest rest' : List Char}
    (absent : mark ∉ first) (absent' : mark ∉ second)
    (same : first ++ mark :: rest = second ++ mark :: rest') : first = second ∧ rest = rest' := by
  induction first generalizing second with
  | nil =>
      cases second with
      | nil => exact ⟨rfl, (List.cons.inj same).2⟩
      | cons other more' =>
          have marked : mark = other := (List.cons.inj same).1
          exact absurd (by simp [marked]) absent'
  | cons c more ih =>
      cases second with
      | nil =>
          have marked : c = mark := (List.cons.inj same).1
          exact absurd (by simp [marked]) absent
      | cons other more' =>
          simp only [List.cons_append, List.cons.injEq] at same
          obtain ⟨rfl, same⟩ := same
          obtain ⟨rfl, tails⟩ := ih (fun member => absent (List.mem_cons_of_mem _ member))
            (fun member => absent' (List.mem_cons_of_mem _ member)) same
          exact ⟨rfl, tails⟩

/-- The three ways to write a character. -/
inductive Written (c : Char) : List Char → Prop where
  | plain (usual : c ≠ '\\') (inner : c ≠ '"') : Written c [c]
  | lettered (letter : Char) (listed : (letter, c) ∈ letterEscapes) : Written c ['\\', letter]
  | numbered : Written c ('\\' :: 'u' :: '\x7b' :: (hexDigits c.toNat ++ ['\x7d']))

theorem written_escape (c : Char) : Written c (escape c) := by
  unfold escape
  split_ifs with quote backslash newline carriage tab null visible hidden
  · exact .lettered '"' (by simp [letterEscapes, quote])
  · exact .lettered '\\' (by simp [letterEscapes, backslash])
  · exact .lettered 'n' (by simp [letterEscapes, newline])
  · exact .lettered 'r' (by simp [letterEscapes, carriage])
  · exact .lettered 't' (by simp [letterEscapes, tab])
  · have zero : c = '\x00' := Char.toNat_inj.mp null
    exact .lettered '0' (by simp [letterEscapes, zero])
  · exact .plain backslash quote
  · exact .numbered
  · exact .plain backslash quote

/-- What is written of a character says where it ends, and which one it is. -/
theorem Written.inj {c other : Char} {text text' rest rest' : List Char} (one : Written c text)
    (another : Written other text') (same : text ++ rest = text' ++ rest') :
    c = other ∧ rest = rest' := by
  cases one with
  | plain usual inner =>
      cases another <;> simp_all
  | lettered letter listed =>
      cases another with
      | plain usual inner => exact absurd (List.cons.inj same).1.symm usual
      | lettered letter' listed' =>
          simp only [List.cons_append, List.nil_append, List.cons.injEq, true_and] at same
          obtain ⟨rfl, same⟩ := same
          exact ⟨letterEscapes_functional listed listed', same⟩
      | numbered =>
          simp only [List.cons_append, List.nil_append, List.cons.injEq, true_and] at same
          exact absurd same.1 (letterEscapes_ne_u listed)
  | numbered =>
      cases another with
      | plain usual inner => exact absurd (List.cons.inj same).1.symm usual
      | lettered letter' listed' =>
          simp only [List.cons_append, List.nil_append, List.cons.injEq, true_and] at same
          exact absurd same.1.symm (letterEscapes_ne_u listed')
      | numbered =>
          simp only [List.cons_append, List.append_assoc, List.nil_append, List.cons.injEq,
            true_and] at same
          obtain ⟨digits, tails⟩ := append_mark_inj (brace_not_mem_hexDigits _)
            (brace_not_mem_hexDigits _) same
          exact ⟨Char.toNat_inj.mp (hexDigits_injective digits), tails⟩

theorem Written.ne_quote_cons {c : Char} {text rest rest' : List Char} (written : Written c text) :
    text ++ rest ≠ '"' :: rest' := by
  cases written with
  | plain usual inner => simp [inner]
  | lettered letter listed => simp
  | numbered => simp

theorem flatMap_escape_inj {first second : List Char}
    (same : first.flatMap escape ++ ['"'] = second.flatMap escape ++ ['"']) : first = second := by
  induction first generalizing second with
  | nil =>
      cases second with
      | nil => rfl
      | cons c rest =>
          rw [List.flatMap_cons, List.append_assoc] at same
          exact absurd same.symm (written_escape c).ne_quote_cons
  | cons c rest ih =>
      rw [List.flatMap_cons, List.append_assoc] at same
      cases second with
      | nil => exact absurd same (written_escape c).ne_quote_cons
      | cons other rest' =>
          rw [List.flatMap_cons, List.append_assoc] at same
          obtain ⟨rfl, tails⟩ := (written_escape c).inj (written_escape other) same
          rw [ih tails]

end Telemetry.Text.Quoted

namespace Telemetry.Text

theorem quoted_inj {first second : String} : quoted first = quoted second ↔ first = second := by
  refine ⟨fun same => ?_, congrArg quoted⟩
  have encoded := String.ofList_inj.mp same
  exact String.toList_inj.mp (Quoted.flatMap_escape_inj (List.cons.inj encoded).2)

end Telemetry.Text
