import Telemetry.Text.LetterCase

/-!
Texts in lower case: those that lower-casing leaves as they are. A text is one just when each of its
characters is its own lower-case form, so parts of such texts are such texts too.
-/

namespace Telemetry.Text

variable {c : Char} {text before first second : List Char}

/-- The character stays as it is, wherever it stands in a text that is lower-cased. -/
def IsLower (c : Char) : Prop := c ≠ capitalSigma ∧ lowerChar c = [c]

instance (c : Char) : Decidable (IsLower c) :=
  inferInstanceAs (Decidable (c ≠ capitalSigma ∧ lowerChar c = [c]))

theorem lowerChar_ne_nil (c : Char) : lowerChar c ≠ [] := by
  unfold lowerChar
  split
  · exact List.cons_ne_nil _ _
  · split <;> exact List.cons_ne_nil _ _

theorem length_le_lowerAfter (before text : List Char) :
    text.length ≤ (lowerAfter before text).length := by
  induction text generalizing before with
  | nil => exact Nat.zero_le _
  | cons c rest ih =>
      have others := ih (c :: before)
      rw [lowerAfter]
      split
      · simp only [List.length_cons]
        omega
      · have some := List.length_pos_iff.mpr (lowerChar_ne_nil c)
        simp only [List.length_cons, List.length_append]
        omega

theorem lowerAfter_eq_self_iff (before text : List Char) :
    lowerAfter before text = text ↔ ∀ c ∈ text, IsLower c := by
  induction text generalizing before with
  | nil => simp [lowerAfter]
  | cons c rest ih =>
      rw [List.forall_mem_cons, lowerAfter, ← ih (c :: before)]
      by_cases sigma : c = capitalSigma
      · -- a capital sigma goes to one of two small ones, neither of which it is
        have changed : ∀ other : Bool, (if other then 'ς' else 'σ') ≠ c := by
          subst sigma
          decide
        simp only [if_pos sigma, List.cons.injEq]
        exact ⟨fun same => absurd same.1 (changed _), fun own => absurd sigma own.1.1⟩
      · rw [if_neg sigma]
        constructor
        · intro same
          -- no character goes to none, so the rest is as long as it was
          have long := length_le_lowerAfter (c :: before) rest
          have lengths := congrArg List.length same
          have some := List.length_pos_iff.mpr (lowerChar_ne_nil c)
          simp only [List.length_append, List.length_cons] at lengths
          have one : (lowerChar c).length = [c].length := by
            rw [List.length_singleton]
            omega
          have parted : lowerChar c ++ lowerAfter (c :: before) rest = [c] ++ rest := same
          obtain ⟨own, others⟩ := List.append_inj parted one
          exact ⟨⟨sigma, own⟩, others⟩
        · rintro ⟨own, others⟩
          rw [own.2, others, List.singleton_append]

theorem lowercase_eq_self_iff {text : String} :
    lowercase text = text ↔ ∀ c ∈ text.toList, IsLower c := by
  rw [← lowerAfter_eq_self_iff [], lowercase, lowerChars]
  constructor
  · intro same
    have lists := congrArg String.toList same
    rwa [String.toList_ofList] at lists
  · intro same
    rw [same, String.ofList_toList]

/-- Among the characters of ASCII only capital letters change. -/
theorem isLower_of_ascii (ascii : c.toNat < 0x80) (small : c.isUpper = false) : IsLower c := by
  constructor
  · rintro rfl
    exact absurd ascii (by decide)
  · have kept : ¬ (c.val ≥ 'A'.val ∧ c.val ≤ 'Z'.val) := of_decide_eq_false small
    have same : c.toLower = c := dif_neg kept
    rw [lowerChar, if_pos ascii, same]

end Telemetry.Text
