/-!
Lines of a text: the pieces between newlines. A text always has one line more than newlines, so
joining its lines gives it back.
-/

namespace Telemetry.Text

/-- The pieces of a text between newlines. -/
def lines : List Char → List (List Char)
  | [] => [[]]
  | c :: rest =>
      if c = '\n' then [] :: lines rest
      else
        match lines rest with
        | [] => [[c]]
        | line :: more => (c :: line) :: more

/-- Puts a separator between the pieces. -/
def joinWith (separator : List Char) : List (List Char) → List Char
  | [] => []
  | [piece] => piece
  | piece :: more => piece ++ separator ++ joinWith separator more

def unlines (pieces : List (List Char)) : List Char := joinWith ['\n'] pieces

theorem lines_ne_nil (text : List Char) : lines text ≠ [] := by
  cases text with
  | nil => simp [lines]
  | cons c rest =>
      simp only [lines]
      split
      · simp
      · split <;> simp

/-- A text without one newline at its end, if it has one there. -/
def dropFinalNewline (text : List Char) : List Char :=
  if text.getLast? = some '\n' then text.dropLast else text

/-- Puts a label before every line, leaving out one newline at the end. -/
def labelLines (label text : List Char) : List Char :=
  let body := dropFinalNewline text
  if label.isEmpty then body
  else unlines ((lines body).map (label ++ ·))

end Telemetry.Text
