import Telemetry.Proofs.Print.Pieces

/-!
Prints to sinks that accept everything. All their pieces get to the sinks, and what comes of them
depends on nothing but the message and its rendering.
-/

namespace Telemetry

/-- A sink takes a piece, unless the piece is empty. -/
def Sinks.take (sinks : Sinks) (piece : Sink × List Char) : Sinks :=
  if piece.2.isEmpty then sinks else sinks.append piece.1 piece.2

theorem Sinks.content_take (sinks : Sinks) (sink : Sink) (piece : Sink × List Char) :
    (sinks.take piece).content sink =
      sinks.content sink ++ if piece.1 = sink then piece.2 else [] := by
  rw [take]
  split
  · rename_i empty
    simp [List.isEmpty_iff.mp empty]
  · exact sinks.content_append sink piece.1 piece.2

theorem Formatter.renderer_ok {formatter : Formatter} {message : Message}
    {options : RenderOptions} {metadata : NameMap String} {rendering : Rendering}
    (rendered : formatter message options metadata = .ok rendering) :
    formatter.renderer message options metadata = .ok rendering := by
  rw [renderer, rendered]
  rfl

namespace Print

/-- Whether a print has its message rendered; it does without when it lays the message out. -/
def needsRendering (settings : PrintSettings) (call : PrintCall) : Bool :=
  (laidOut? settings call.message).isNone

/-- The rendering that a print asks for. -/
def rendering (renderer : Renderer) (settings : PrintSettings) (call : PrintCall) :
    Except Error Rendering :=
  renderer call.message (options settings) (metadata call.source)

/-- What comes of a print, if no sink refuses a piece. -/
def outcome (renderer : Renderer) (settings : PrintSettings) (call : PrintCall) : Result :=
  if needsRendering settings call then (rendering renderer settings call).map fun _ => ()
  else .ok ()

/-- How many failures a print counts that ends so. -/
def failuresOf : Result → Nat
  | .ok () => 0
  | .error _ => 1

/-- The record of a failure, in one piece. -/
def failureRecord (label : String) (reason : Error) : List Char :=
  (echoPieces label reason).flatten

/-- What is echoed of a print that ends so. -/
def echoed (settings : PrintSettings) (label : String) : Result → List Char
  | .ok () => []
  | .error reason => if settings.loggingEnabled then [] else failureRecord label reason

variable {renderer : Renderer} {settings : PrintSettings} {call : PrintCall}

theorem needsRendering_eq_false_iff :
    needsRendering settings call = false ↔
      (∃ content, call.message = .capabilities content) ∧ settings.format = "" := by
  cases message : call.message with
  | capabilities content =>
      simp [needsRendering, message, laidOut?, usesLayout, Message.hasLayout]
  | _ => simp [needsRendering, message, laidOut?]

theorem outcome_eq_error_iff {reason : Error} :
    outcome renderer settings call = .error reason ↔
      needsRendering settings call = true ∧ rendering renderer settings call = .error reason := by
  rw [outcome]
  cases needsRendering settings call with
  | false => simp
  | true => cases rendering renderer settings call <;> simp [Except.map]

theorem textOn_map (sink other : Sink) (texts : List (List Char)) :
    textOn sink (texts.map (other, ·)) = if other = sink then texts.flatten else [] := by
  induction texts with
  | nil => simp
  | cons text texts ih =>
      rw [List.map_cons, textOn_cons, ih]
      split <;> rfl

theorem textOn_header_pieces (declared : Nat) :
    textOn .header (pieces renderer settings call declared) = call.label.toList ++ ['\n'] := by
  have nothing : ∀ label, textOn .header (contentPieces renderer settings call label) = [] := by
    intro label
    rw [contentPieces]
    split
    · simp
    · split
      · simp
      · split <;> simp [textOn_map]
  simp [pieces, headerPieces, nothing]

theorem textOn_echo_pieces (declared : Nat) :
    textOn .echo (pieces renderer settings call declared) =
      echoed settings call.label (outcome renderer settings call) := by
  rw [pieces, textOn_append, textOn_map, contentPieces, outcome, needsRendering, rendering]
  cases laidOut? settings call.message with
  | some content => simp [echoed]
  | none =>
      cases renderer call.message (options settings) (metadata call.source) with
      | ok text => simp [echoed, Except.map]
      | error reason =>
          cases logged : settings.loggingEnabled <;>
            simp [echoed, logged, Except.map, textOn_map, failureRecord]

end Print

namespace Printing

open Print

variable {renderer : Renderer} {settings : PrintSettings} {call : PrintCall}

/-- The sinks take pieces, one after the other. -/
def taking (printing : Printing) (pieces : List (Sink × List Char)) : Printing :=
  { printing with sinks := pieces.foldl Sinks.take printing.sinks }

theorem taking_append (printing : Printing) (first second : List (Sink × List Char)) :
    printing.taking (first ++ second) = (printing.taking first).taking second := by
  simp only [taking, List.foldl_append]

theorem content_taking (printing : Printing) (pieces : List (Sink × List Char)) (sink : Sink) :
    (printing.taking pieces).sinks.content sink =
      printing.sinks.content sink ++ textOn sink pieces := by
  induction pieces generalizing printing with
  | nil => simp [taking]
  | cons piece pieces ih =>
      have later := ih { printing with sinks := printing.sinks.take piece }
      simp only [Sinks.content_take] at later
      rw [textOn_cons, ← List.append_assoc]
      exact later

theorem run_writing {sink : Sink} (texts : List (List Char))
    (next : PrintProgram Print.Result) (before : Printing) :
    (writing sink texts next).run (handlerWith renderer .none) before =
      next.run (handlerWith renderer .none) (before.taking (texts.map (sink, ·))) := by
  induction texts generalizing before with
  | nil => rfl
  | cons text texts ih =>
      rw [writing, List.map_cons, taking, List.foldl_cons, Sinks.take]
      split
      · exact ih before
      · exact ih { before with sinks := before.sinks.append sink text }

theorem run_formatted (label : List Char) (usual : laidOut? settings call.message = none)
    (before : Printing) :
    (formatted settings call label).run (handlerWith renderer .none) before =
      ((rendering renderer settings call).map fun _ => (),
        { before.taking (contentPieces renderer settings call label) with
          consulted := before.consulted + 1 }) := by
  rw [formatted, Program.run_ask, contentPieces, usual, rendering]
  cases rendered : renderer call.message (options settings) (metadata call.source) with
  | ok text =>
      simp only [handlerWith, rendered]
      rw [run_writing]
      rfl
  | error reason =>
      simp only [handlerWith, rendered]
      split
      · rfl
      · rw [run_writing]
        rfl

theorem run_body (label : List Char) (before : Printing) :
    (body settings call label).run (handlerWith renderer .none) before =
      (outcome renderer settings call,
        { before.taking (contentPieces renderer settings call label) with
          consulted := before.consulted + (needsRendering settings call).toNat }) := by
  rw [body_eq, outcome, needsRendering]
  cases own : laidOut? settings call.message with
  | none => exact run_formatted label own before
  | some content =>
      simp only [run_writing, contentPieces, own]
      rfl

/-- A print to sinks that accept everything. -/
theorem print_accepted (renderer : Renderer) (settings : PrintSettings) (call : PrintCall)
    (before : Printing) :
    before.printWith renderer .none settings call =
      (outcome renderer settings call,
        { before.taking (pieces renderer settings call before.declared) with
          consulted := before.consulted + (needsRendering settings call).toNat
          failures := before.failures + failuresOf (outcome renderer settings call) }) := by
  have labelled : (before.taking ((headerPieces call.label).map (.header, ·))).declared =
      before.declared := rfl
  rw [printWith, program, Program.run_then, attempt, run_writing, Program.run_ask]
  simp only [handlerWith, run_body, labelled]
  rw [pieces, taking_append]
  cases outcome renderer settings call <;> rfl

/-- A message that can be rendered is printed, without a word on the side. -/
theorem quiet_print {text : Rendering} (rendered : rendering renderer settings call = .ok text)
    (before : Printing) :
    ∃ after, before.printWith renderer .none settings call = (.ok (), after) ∧
      after.sinks.echo = before.sinks.echo ∧ after.failures = before.failures := by
  have succeeds : outcome renderer settings call = .ok () := by
    rw [outcome, rendered]
    exact ite_self _
  rw [print_accepted, succeeds]
  refine ⟨_, rfl, ?_, rfl⟩
  have echo := content_taking before (pieces renderer settings call before.declared) .echo
  rw [textOn_echo_pieces, succeeds] at echo
  exact echo.trans (List.append_nil _)

end Printing

end Telemetry
