import Telemetry.Print.Pipeline

/-!
What was written, message by message. A rendered message is taken to end with the first line that
ends in a brace, so a transcript of messages that are objects has one text for each label.
-/

namespace Telemetry

/-- Cuts a text after each line that ends in a brace: the pieces, and what is left. -/
def cutMessages (piece : List Char) : List Char → List (List Char) × List Char
  | '\x7d' :: '\n' :: rest =>
      let (pieces, left) := cutMessages [] rest
      ((piece ++ ['\x7d', '\n']) :: pieces, left)
  | c :: rest => cutMessages (piece ++ [c]) rest
  | [] => ([], piece)

/-- The lines of a text, without the empty one after the last break. -/
def writtenLines (text : List Char) : List (List Char) := (Text.lines text).dropLast

structure Transcript where
  /-- Labels with the texts that were written under them. -/
  messages : List (List Char × Option (List Char))
  rest : List Char
  echo : List (List Char)
deriving DecidableEq, Repr

def Sinks.transcript (sinks : Sinks) : Transcript :=
  let (pieces, rest) := cutMessages [] sinks.out
  ⟨(writtenLines sinks.header).mapIdx (fun place label => (label, pieces[place]?)), rest,
    writtenLines sinks.echo⟩

end Telemetry
