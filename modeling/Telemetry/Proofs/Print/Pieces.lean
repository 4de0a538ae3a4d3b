import Telemetry.Print.Pipeline
import Telemetry.Proofs.Transcript

/-!
The pieces that a print writes, and what of them gets to the sinks: all of them, unless a sink
refuses one, which ends the print.
-/

namespace Telemetry

theorem Sinks.content_append (sinks : Sinks) (sink other : Sink) (text : List Char) :
    (sinks.append other text).content sink =
      sinks.content sink ++ if other = sink then text else [] := by
  cases sink <;> cases other <;> simp [append, content]

namespace Print

/-- What of some pieces is meant for one sink. -/
def textOn (sink : Sink) (pieces : List (Sink × List Char)) : List Char :=
  pieces.flatMap fun piece => if piece.1 = sink then piece.2 else []

@[simp] theorem textOn_nil (sink : Sink) : textOn sink [] = [] := rfl

@[simp] theorem textOn_cons (sink : Sink) (piece : Sink × List Char)
    (pieces : List (Sink × List Char)) :
    textOn sink (piece :: pieces) =
      (if piece.1 = sink then piece.2 else []) ++ textOn sink pieces :=
  List.flatMap_cons

@[simp] theorem textOn_append (sink : Sink) (first second : List (Sink × List Char)) :
    textOn sink (first ++ second) = textOn sink first ++ textOn sink second :=
  List.flatMap_append

theorem isPrefix_textOn_take (sink : Sink) (pieces : List (Sink × List Char)) (count : Nat) :
    textOn sink (pieces.take count) <+: textOn sink pieces := by
  have whole : textOn sink pieces =
      textOn sink (pieces.take count) ++ textOn sink (pieces.drop count) := by
    rw [← textOn_append, List.take_append_drop]
  rw [whole]
  exact List.prefix_append _ _

/-- The capabilities that are printed in a layout of their own. -/
def laidOut? (settings : PrintSettings) : Message → Option Capabilities
  | .capabilities content =>
      if usesLayout settings (.capabilities content) then some content else none
  | _ => none

def contentPieces (renderer : Renderer) (settings : PrintSettings) (call : PrintCall)
    (label : List Char) : List (Sink × List Char) :=
  match laidOut? settings call.message with
  | some content => [(.out, content.layout label)]
  | none =>
      match renderer call.message (options settings) (metadata call.source) with
      | .ok rendering => [(.out, Text.labelLines label rendering.characters), (.out, ['\n'])]
      | .error reason =>
          if settings.loggingEnabled then [] else (echoPieces call.label reason).map (.echo, ·)

/-- The pieces of a print with their sinks, when so many targets are declared. -/
def pieces (renderer : Renderer) (settings : PrintSettings) (call : PrintCall) (declared : Nat) :
    List (Sink × List Char) :=
  (headerPieces call.label).map (.header, ·) ++
    contentPieces renderer settings call (lineLabel settings declared call.source)

/-- Rendering of a message, and the writing of what comes of it. -/
def formatted (settings : PrintSettings) (call : PrintCall) (label : List Char) :
    PrintProgram Result :=
  .ask (.render call.message (options settings) (metadata call.source)) fun
    | .ok rendering =>
        writing .out [Text.labelLines label rendering.characters, ['\n']] flushed
    | .error reason =>
        if settings.loggingEnabled then .done (.error reason)
        else writing .echo (echoPieces call.label reason) (.done (.error reason))

theorem body_eq (settings : PrintSettings) (call : PrintCall) (label : List Char) :
    body settings call label =
      match laidOut? settings call.message with
      | some content => writing .out [content.layout label] flushed
      | none => formatted settings call label := by
  cases message : call.message with
  | capabilities content =>
      by_cases own : usesLayout settings (.capabilities content) = true
      · have inLayout : laidOut? settings (.capabilities content) = some content := if_pos own
        rw [body, message, inLayout]
        exact if_pos own
      · have asUsual : laidOut? settings (.capabilities content) = none := if_neg own
        rw [body, message, asUsual, formatted, message]
        exact if_neg own
  | _ =>
      rw [body, formatted, message]
      rfl

end Print

namespace Printing

open Print

variable {renderer : Renderer} {faults : SinkFaults} {settings : PrintSettings}
  {before middle after : Printing} {first second more : List (Sink × List Char)}
  {result : Print.Result} {call : PrintCall}

/-- The pieces have been written, and nothing else. -/
structure Wrote (written : List (Sink × List Char)) (before after : Printing) : Prop where
  content : ∀ sink, after.sinks.content sink = before.sinks.content sink ++ textOn sink written
  declared : after.declared = before.declared

theorem Wrote.refl (printing : Printing) : Wrote [] printing printing :=
  ⟨fun _ => by simp, rfl⟩

theorem Wrote.trans (earlier : Wrote first before middle) (later : Wrote second middle after) :
    Wrote (first ++ second) before after where
  content := by
    intro sink
    rw [later.content, earlier.content, textOn_append, List.append_assoc]
  declared := later.declared.trans earlier.declared

theorem wrote_append (sink : Sink) (text : List Char) (printing : Printing) :
    Wrote [(sink, text)] printing { printing with sinks := printing.sinks.append sink text } where
  content := by
    intro other
    simp [Sinks.content_append]
  declared := rfl

theorem wrote_empty (sink : Sink) {text : List Char} (empty : text.isEmpty = true)
    (printing : Printing) : Wrote [(sink, text)] printing printing where
  content := by
    intro other
    simp [List.isEmpty_iff.mp empty]
  declared := rfl

/-- A print has ended because a sink has refused a piece. -/
def Refused (faults : SinkFaults) (result : Print.Result) : Prop :=
  ∃ sink writes fault, faults.onWrite sink writes = some fault ∧ result = failed fault

/-- The pieces get to the sinks in order, all of them unless a sink refuses one. -/
def Delivers (faults : SinkFaults) (pieces : List (Sink × List Char)) (before : Printing)
    (outcome : Print.Result × Printing) : Prop :=
  ∃ accepted, Wrote (pieces.take accepted) before outcome.2 ∧
    (pieces.length ≤ accepted ∨ Refused faults outcome.1)

theorem Wrote.delivers_nil (nothing : Wrote [] before after) :
    Delivers faults [] before (result, after) :=
  ⟨0, nothing, .inl (Nat.le_refl 0)⟩

theorem Wrote.delivers {outcome : Print.Result × Printing} (wrote : Wrote first before middle)
    (delivers : Delivers faults more middle outcome) :
    Delivers faults (first ++ more) before outcome := by
  obtain ⟨accepted, rest, complete⟩ := delivers
  refine ⟨first.length + accepted, ?_, ?_⟩
  · rw [List.take_length_add_append]
    exact wrote.trans rest
  · rcases complete with enough | refused
    · exact .inl (by simp only [List.length_append]; omega)
    · exact .inr refused

theorem delivers_writing {sink : Sink} (texts : List (List Char))
    {next : PrintProgram Print.Result}
    (rest : ∀ after, Wrote (texts.map (sink, ·)) before after →
      Delivers faults more after (next.run (handlerWith renderer faults) after)) :
    Delivers faults (texts.map (sink, ·) ++ more) before
      ((writing sink texts next).run (handlerWith renderer faults) before) := by
  induction texts generalizing before with
  | nil => exact rest before (Wrote.refl before)
  | cons text texts ih =>
      rw [writing]
      split
      · rename_i empty
        have wrote : Wrote [(sink, text)] before before := wrote_empty sink empty before
        exact wrote.delivers (ih fun after later => rest after (wrote.trans later))
      · rw [Program.run_ask]
        cases refusal : faults.onWrite sink before.sinks.writes with
        | none =>
            simp only [handlerWith, refusal]
            have wrote := wrote_append sink text before
            have others := ih fun after later => rest after (wrote.trans later)
            exact wrote.delivers others
        | some fault =>
            simp only [handlerWith, refusal]
            refine ⟨0, ⟨?_, rfl⟩, .inr ⟨sink, before.sinks.writes, fault, refusal, rfl⟩⟩
            intro other
            cases other <;> simp [Sinks.content]

theorem delivers_flushed (printing : Printing) :
    Delivers faults [] printing (flushed.run (handlerWith renderer faults) printing) := by
  rw [flushed, Program.run_ask]
  cases flush : faults.onFlush printing.sinks.writes <;>
    simp only [handlerWith, flush] <;> exact (Wrote.refl printing).delivers_nil

theorem delivers_formatted {call : PrintCall} {label : List Char}
    (usual : laidOut? settings call.message = none) (printing : Printing) :
    Delivers faults (contentPieces renderer settings call label) printing
      ((formatted settings call label).run (handlerWith renderer faults) printing) := by
  have asked : Wrote [] printing { printing with consulted := printing.consulted + 1 } :=
    ⟨fun _ => by simp, rfl⟩
  rw [contentPieces, usual, formatted, Program.run_ask]
  refine asked.delivers ?_
  cases rendered : renderer call.message (options settings) (metadata call.source) with
  | ok rendering =>
      simp only [handlerWith, rendered]
      rw [← List.append_nil [(Sink.out, _), _]]
      exact delivers_writing [_, _] fun after _ => delivers_flushed after
  | error reason =>
      simp only [handlerWith, rendered]
      split
      · exact (Wrote.refl _).delivers_nil
      · rw [← List.append_nil (List.map _ _)]
        exact delivers_writing _ fun after _ => (Wrote.refl after).delivers_nil

theorem delivers_body (call : PrintCall) (label : List Char) (printing : Printing) :
    Delivers faults (contentPieces renderer settings call label) printing
      ((body settings call label).run (handlerWith renderer faults) printing) := by
  rw [body_eq]
  cases laidOut : laidOut? settings call.message with
  | none => exact delivers_formatted laidOut printing
  | some content =>
      simp only [contentPieces, laidOut]
      rw [← List.append_nil [(Sink.out, _)]]
      exact delivers_writing [_] fun after _ => delivers_flushed after

/-- A print by itself writes its pieces. -/
theorem delivers_print (renderer : Renderer) (faults : SinkFaults) (settings : PrintSettings)
    (call : PrintCall) (printing : Printing) :
    Delivers faults (pieces renderer settings call printing.declared) printing
      (printing.printWith renderer faults settings call) := by
  have attempted : Delivers faults (pieces renderer settings call printing.declared) printing
      ((attempt settings call).run (handlerWith renderer faults) printing) := by
    refine delivers_writing _ ?_
    intro after wrote
    rw [Program.run_ask, ← wrote.declared]
    exact delivers_body call _ after
  rw [printWith, program, Program.run_then]
  generalize (attempt settings call).run (handlerWith renderer faults) printing = outcome
    at attempted
  obtain ⟨accepted, wrote, complete⟩ := attempted
  obtain ⟨result, after⟩ := outcome
  cases result with
  | ok done => exact ⟨accepted, wrote, complete⟩
  | error reason => exact ⟨accepted, ⟨wrote.content, wrote.declared⟩, complete⟩

/-- A sink gets a beginning of what is meant for it, and all of it unless a piece is refused. -/
theorem Delivers.content {pieces : List (Sink × List Char)} {outcome : Print.Result × Printing}
    (delivers : Delivers faults pieces before outcome) (sink : Sink) :
    ∃ written, outcome.2.sinks.content sink = before.sinks.content sink ++ written ∧
      written <+: textOn sink pieces ∧
      (¬ Refused faults outcome.1 → written = textOn sink pieces) := by
  obtain ⟨accepted, wrote, complete⟩ := delivers
  refine ⟨_, wrote.content sink, isPrefix_textOn_take sink pieces accepted, fun accepts => ?_⟩
  rw [List.take_of_length_le (complete.resolve_right accepts)]

/-- What a sink holds stays at the beginning of what it holds later. -/
theorem handler_grows (sink : Sink) (question : PrintQuestion) (printing : Printing) :
    printing.sinks.content sink <+:
      (handlerWith renderer faults question printing).2.sinks.content sink := by
  cases question with
  | write other text =>
      simp only [handlerWith]
      split
      · rw [Sinks.content_append]
        exact List.prefix_append _ _
      · cases sink <;> exact List.prefix_refl _
  | flush =>
      simp only [handlerWith]
      split <;> exact List.prefix_refl _
  | _ => exact List.prefix_refl _

theorem run_grows {α : Type} (sink : Sink) (program : PrintProgram α) (printing : Printing) :
    printing.sinks.content sink <+:
      (program.run (handlerWith renderer faults) printing).2.sinks.content sink := by
  induction program generalizing printing with
  | done result => exact List.prefix_refl _
  | ask question next ih => exact (handler_grows sink question printing).trans (ih _ _)

end Printing

end Telemetry
