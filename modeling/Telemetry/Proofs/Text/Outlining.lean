import Telemetry.Proofs.Text.Quoting
import Telemetry.Text.Outline

/-!
What an outline tells of its parts: two outlines that differ in one part have the same text just
when the texts of the part are the same.
-/

namespace Telemetry.Text.Outline

variable {name key : String} {before after : List (String × Outline)} {one other : Outline}
  {spreadOut : Bool} {depth : Nat}

/-- The text of an outline as a part at some depth. -/
def textAt (spreadOut : Bool) (depth : Nat) (outline : Outline) : String :=
  if spreadOut then spread depth outline else inline outline

theorem render_eq (spreadOut : Bool) (outline : Outline) :
    outline.render spreadOut = textAt spreadOut 0 outline := rfl

theorem inlineFields_inj :
    inlineFields (before ++ (key, one) :: after) = inlineFields (before ++ (key, other) :: after) ↔
      inline one = inline other := by
  induction before with
  | nil =>
      simp only [List.nil_append, inlineFields, String.append_left_inj, String.append_right_inj]
  | cons field more ih =>
      simp only [List.cons_append, inlineFields, String.append_right_inj]
      exact ih

theorem spreadFields_inj :
    spreadFields depth (before ++ (key, one) :: after) =
        spreadFields depth (before ++ (key, other) :: after) ↔
      spread (depth + 1) one = spread (depth + 1) other := by
  induction before with
  | nil =>
      simp only [List.nil_append, spreadFields, String.append_left_inj, String.append_right_inj]
  | cons field more ih =>
      simp only [List.cons_append, spreadFields, String.append_right_inj]
      exact ih

theorem textAt_record_inj :
    textAt spreadOut depth (.record name (before ++ (key, one) :: after)) =
        textAt spreadOut depth (.record name (before ++ (key, other) :: after)) ↔
      textAt spreadOut (depth + 1) one = textAt spreadOut (depth + 1) other := by
  cases spreadOut with
  | true =>
      have fields := @spreadFields_inj key before after one other depth
      cases before with
      | nil =>
          simpa only [textAt, ↓reduceIte, List.nil_append, spread, String.append_left_inj,
            String.append_right_inj] using fields
      | cons field more =>
          simpa only [textAt, ↓reduceIte, List.cons_append, spread, String.append_left_inj,
            String.append_right_inj] using fields
  | false =>
      cases before with
      | nil =>
          simp only [textAt, Bool.false_eq_true, ↓reduceIte, List.nil_append, inline,
            String.append_left_inj, String.append_right_inj]
      | cons field more =>
          simpa only [textAt, Bool.false_eq_true, ↓reduceIte, List.cons_append, inline,
            String.append_left_inj, String.append_right_inj] using inlineFields_inj

theorem textAt_wrapped_inj :
    textAt spreadOut depth (.wrapped name one) = textAt spreadOut depth (.wrapped name other) ↔
      textAt spreadOut (depth + 1) one = textAt spreadOut (depth + 1) other := by
  cases spreadOut <;>
    simp only [textAt, Bool.false_eq_true, ↓reduceIte, spread, inline, String.append_left_inj,
      String.append_right_inj]

theorem textAt_text_inj {first second : String} :
    textAt spreadOut depth (.text first) = textAt spreadOut depth (.text second) ↔
      first = second := by
  cases spreadOut <;>
    simp only [textAt, Bool.false_eq_true, ↓reduceIte, text, spread, inline, quoted_inj]

theorem textAt_none_ne_some :
    textAt spreadOut depth (.atom "None") ≠ textAt spreadOut depth (.wrapped "Some" one) := by
  intro same
  have heads := congrArg (fun text => text.toList.head?) same
  cases spreadOut <;> simp [textAt, spread, inline] at heads

theorem textAt_option_text_inj {first second : Option String} :
    textAt spreadOut depth (.option .text first) = textAt spreadOut depth (.option .text second) ↔
      first = second := by
  cases first with
  | none =>
      cases second with
      | none => simp
      | some value => exact iff_of_false textAt_none_ne_some (by simp)
  | some value =>
      cases second with
      | none => exact iff_of_false textAt_none_ne_some.symm (by simp)
      | some other => exact textAt_wrapped_inj.trans (textAt_text_inj.trans (by simp))

end Telemetry.Text.Outline
