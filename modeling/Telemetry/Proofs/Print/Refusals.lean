import Telemetry.Proofs.Print.Accepted

/-!
Prints to sinks that may refuse what is written. Which refusal comes first decides how a print ends;
when a message cannot be rendered, a refusal of the record of this failure takes its place.
-/

namespace Telemetry

/-- The first refusal among so many writes to a sink, after as many as have been made before. -/
def Print.refusal? (faults : SinkFaults) (sink : Sink) (writes : Nat) : Nat → Option Fault
  | 0 => none
  | count + 1 => (faults.onWrite sink writes).or (refusal? faults sink (writes + 1) count)

/-- How many writes are made for pieces. -/
def Print.writesOf (pieces : List (List Char)) : Nat := pieces.countP (!·.isEmpty)

namespace Printing

open Print

variable {renderer : Renderer} {faults : SinkFaults} {settings : PrintSettings}
  {call : PrintCall} {sink : Sink} {before after : Printing}

/-- Nothing has changed but what one sink holds. -/
structure Only (sink : Sink) (before after : Printing) : Prop where
  content : ∀ other, other ≠ sink → after.sinks.content other = before.sinks.content other
  declared : after.declared = before.declared
  consulted : after.consulted = before.consulted
  failures : after.failures = before.failures

theorem Only.refl (printing : Printing) : Only sink printing printing :=
  ⟨fun _ _ => rfl, rfl, rfl, rfl⟩

theorem Only.trans {middle : Printing} (earlier : Only sink before middle)
    (later : Only sink middle after) : Only sink before after where
  content := fun other differs =>
    (later.content other differs).trans (earlier.content other differs)
  declared := later.declared.trans earlier.declared
  consulted := later.consulted.trans earlier.consulted
  failures := later.failures.trans earlier.failures

theorem only_append (sink : Sink) (text : List Char) (printing : Printing) :
    Only sink printing { printing with sinks := printing.sinks.append sink text } where
  content := by
    intro other differs
    rw [Sinks.content_append, if_neg differs.symm, List.append_nil]
  declared := rfl
  consulted := rfl
  failures := rfl

theorem only_refused (sink : Sink) (printing : Printing) :
    Only sink printing
      { printing with sinks := { printing.sinks with writes := printing.sinks.writes + 1 } } where
  content := fun other _ => by cases other <;> rfl
  declared := rfl
  consulted := rfl
  failures := rfl

/-- Pieces are written to a sink and the print goes on, unless one of them is refused: the first
refusal ends it. -/
theorem run_writing_elim (renderer : Renderer) (faults : SinkFaults) (sink : Sink)
    (texts : List (List Char)) (next : PrintProgram Print.Result) (before : Printing) :
    let refusal := refusal? faults sink before.sinks.writes (writesOf texts)
    ∃ after, Only sink before after ∧
      (refusal = none → after.sinks.writes = before.sinks.writes + writesOf texts) ∧
      (writing sink texts next).run (handlerWith renderer faults) before =
        refusal.elim (next.run (handlerWith renderer faults) after) (failed ·, after) := by
  induction texts generalizing before with
  | nil => exact ⟨before, .refl before, fun _ => rfl, rfl⟩
  | cons text texts ih =>
      cases empty : text.isEmpty with
      | true =>
          have uncounted : writesOf (text :: texts) = writesOf texts :=
            List.countP_cons_of_neg (by simp [empty])
          rw [uncounted, writing, if_pos empty]
          exact ih before
      | false =>
          have counted : writesOf (text :: texts) = writesOf texts + 1 :=
            List.countP_cons_of_pos (by simp [empty])
          rw [counted, refusal?, writing, if_neg (by simp [empty]), Program.run_ask]
          cases refused : faults.onWrite sink before.sinks.writes with
          | some fault =>
              simp only [handlerWith, refused]
              refine ⟨_, only_refused sink before, fun accepted => ?_, rfl⟩
              rw [Option.some_or] at accepted
              cases accepted
          | none =>
              simp only [handlerWith, refused, Option.none_or]
              have written : (before.sinks.append sink text).writes = before.sinks.writes + 1 := by
                cases sink <;> rfl
              obtain ⟨after, only, writes, ends⟩ :=
                ih { before with sinks := before.sinks.append sink text }
              rw [written] at writes ends
              refine ⟨after, (only_append sink text before).trans only, fun accepted => ?_, ends⟩
              rw [writes accepted, Nat.add_assoc, Nat.add_comm 1]

/-- The refusal of the record of a failure, after so many writes. Nothing is recorded when failures
are logged. -/
def recordRefusal? (faults : SinkFaults) (settings : PrintSettings) (label : String)
    (reason : Error) (writes : Nat) : Option Fault :=
  if settings.loggingEnabled then none
  else refusal? faults .echo writes (writesOf (echoPieces label reason))

/-- A message that cannot be rendered ends the print with the reason, unless its record is refused,
and then with the refusal. -/
theorem run_formatted_error {reason : Error} (faults : SinkFaults) (label : List Char)
    (before : Printing) (fails : rendering renderer settings call = .error reason) :
    ∃ after, Only .echo { before with consulted := before.consulted + 1 } after ∧
      (formatted settings call label).run (handlerWith renderer faults) before =
        ((recordRefusal? faults settings call.label reason before.sinks.writes).elim
          (.error reason) failed, after) := by
  rw [rendering] at fails
  rw [formatted, Program.run_ask, recordRefusal?]
  simp only [handlerWith, fails]
  cases logged : settings.loggingEnabled with
  | true => exact ⟨_, .refl _, rfl⟩
  | false =>
      obtain ⟨after, only, _, ends⟩ := run_writing_elim renderer faults .echo
        (echoPieces call.label reason) (.done (.error reason))
        { before with consulted := before.consulted + 1 }
      refine ⟨after, only, ends.trans ?_⟩
      simp only [Bool.false_eq_true, if_false]
      cases refusal? faults .echo before.sinks.writes (writesOf (echoPieces call.label reason)) <;>
        rfl

theorem consulted_flushed (before : Printing) :
    (flushed.run (handlerWith renderer faults) before).2.consulted = before.consulted := by
  rw [flushed, Program.run_ask]
  cases flush : faults.onFlush before.sinks.writes <;> simp only [handlerWith, flush] <;> rfl

/-- A message with a layout of its own is printed without the formatter. -/
theorem consulted_body_laidOut (renderer : Renderer) (faults : SinkFaults) (label : List Char)
    (before : Printing) (own : needsRendering settings call = false) :
    ((body settings call label).run (handlerWith renderer faults) before).2.consulted =
      before.consulted := by
  obtain ⟨content, laidOut⟩ := Option.isSome_iff_exists.mp (Option.isNone_eq_false_iff.mp own)
  obtain ⟨after, only, _, ends⟩ := run_writing_elim renderer faults .out
    [content.layout label] flushed before
  simp only [body_eq, laidOut]
  rw [ends]
  cases refusal? faults .out before.sinks.writes (writesOf [content.layout label]) with
  | none => exact (consulted_flushed after).trans only.consulted
  | some fault => exact only.consulted

/-- A print writes its header and goes on to the body, unless a piece of the header is refused. -/
theorem run_attempt_cases (renderer : Renderer) (faults : SinkFaults) (settings : PrintSettings)
    (call : PrintCall) (printing : Printing) :
    (∃ fault after, after.consulted = printing.consulted ∧
      (attempt settings call).run (handlerWith renderer faults) printing = (failed fault, after)) ∨
    ∃ after label, Only .header printing after ∧
      after.sinks.writes = printing.sinks.writes + writesOf (headerPieces call.label) ∧
      (attempt settings call).run (handlerWith renderer faults) printing =
        (body settings call label).run (handlerWith renderer faults) after := by
  obtain ⟨after, only, writes, ends⟩ := run_writing_elim renderer faults .header
    (headerPieces call.label) (.ask .declaredCount fun declared =>
      body settings call (lineLabel settings declared call.source)) printing
  cases refusal : refusal? faults .header printing.sinks.writes
      (writesOf (headerPieces call.label)) with
  | some fault =>
      rw [refusal] at ends
      exact .inl ⟨fault, after, only.consulted, ends⟩
  | none =>
      rw [refusal] at ends
      exact .inr ⟨after, _, only, writes refusal, ends⟩

theorem run_settled (result : Print.Result) (before : Printing) :
    (settled result).run (handlerWith renderer faults) before =
      (result, { before with failures := before.failures + failuresOf result }) := by
  cases result <;> rfl

/-- When the formatter is asked and answers with an error, nothing is written to the text and one
failure is counted. The print ends with the error, unless its record is refused. -/
theorem print_eq_of_error {reason : Error}
    (fails : rendering renderer settings call = .error reason) (printing : Printing)
    (consulted : (printing.printWith renderer faults settings call).2.consulted ≠
      printing.consulted) :
    ∃ after, after.sinks.out = printing.sinks.out ∧ after.failures = printing.failures + 1 ∧
      printing.printWith renderer faults settings call =
        ((recordRefusal? faults settings call.label reason
          (printing.sinks.writes + writesOf (headerPieces call.label))).elim (.error reason) failed,
          after) := by
  rw [printWith, Print.program, Program.run_then, run_settled] at consulted ⊢
  rcases run_attempt_cases renderer faults settings call printing with
    ⟨fault, after, same, ends⟩ | ⟨labelled, label, header, writes, ends⟩
  · -- a refused piece of the header ends the print before the formatter is asked
    rw [ends] at consulted
    exact absurd same consulted
  · rw [ends] at consulted ⊢
    cases own : needsRendering settings call with
    | false =>
        have unasked := consulted_body_laidOut renderer faults label labelled own
        exact absurd (unasked.trans header.consulted) consulted
    | true =>
        obtain ⟨after, record, stops⟩ :=
          run_formatted_error faults label labelled fails
        have usual : laidOut? settings call.message = none := Option.isNone_iff_eq_none.mp own
        have unlaid : body settings call label = formatted settings call label := by
          rw [body_eq, usual]
        rw [unlaid, stops, writes]
        refine ⟨_, ?_, ?_, rfl⟩
        · exact (record.content .out (by decide)).trans (header.content .out (by decide))
        · have one : ∀ refusal : Option Fault,
              failuresOf (refusal.elim (.error reason) failed) = 1 := fun refusal => by
            cases refusal <;> rfl
          rw [one]
          exact congrArg (· + 1) (record.failures.trans header.failures)

/-- When the formatter is asked for a rendering and answers with an error, nothing is written to the
text, one failure is counted, and the print ends with this error or with the refusal of its record.
It ends with the error exactly when failures are logged, or the record is accepted, or the refusal
is the very same error. -/
theorem formatter_error_kept_iff (renderer : Renderer) (faults : SinkFaults)
    (settings : PrintSettings) (call : PrintCall) (printing : Printing) (reason : Error)
    (consulted : (printing.printWith renderer faults settings call).2.consulted ≠
      printing.consulted)
    (fails : rendering renderer settings call = .error reason) :
    let outcome := printing.printWith renderer faults settings call
    let refusal := refusal? faults .echo
      (printing.sinks.writes + writesOf (headerPieces call.label))
      (writesOf (echoPieces call.label reason))
    outcome.2.sinks.out = printing.sinks.out ∧
      outcome.2.failures = printing.failures + 1 ∧
      (outcome.1 = .error reason ∨ ∃ fault, refusal = some fault ∧ outcome.1 = failed fault) ∧
      (outcome.1 = .error reason ↔ settings.loggingEnabled = true ∨
        ∀ fault, refusal = some fault → failed fault = .error reason) := by
  obtain ⟨after, out, failures, ends⟩ := print_eq_of_error fails printing consulted
  dsimp only
  rw [ends, recordRefusal?]
  refine ⟨out, failures, ?_⟩
  cases settings.loggingEnabled with
  | true => exact ⟨.inl rfl, fun _ => .inl rfl, fun _ => rfl⟩
  | false =>
      simp only [Bool.false_eq_true, if_false, false_or]
      cases refusal? faults .echo _ (writesOf (echoPieces call.label reason)) with
      | none => exact ⟨.inl rfl, fun _ => nofun, fun _ => rfl⟩
      | some fault =>
          refine ⟨.inr ⟨fault, rfl, rfl⟩, fun same other known => ?_, fun all => all fault rfl⟩
          cases known
          exact same

/-- The text and the labels are refused from the third write on, and the error is kept. -/
theorem error_kept_when_text_refused :
    let renderer : Renderer := fun _ _ _ => .error (.format (.unsupported "boom"))
    let faults : SinkFaults :=
      ⟨fun sink writes => if sink = .echo ∨ writes < 2 then none else some (.other "sink closed"),
        fun _ => some (.other "flush failed")⟩
    let outcome := (start 1).printWith renderer faults ⟨"", false, false⟩
      ⟨"r1", "Get", .get (.object [])⟩
    outcome.1 = .error (.format (.unsupported "boom")) ∧ outcome.2.sinks.out = [] ∧
      outcome.2.failures = 1 := by
  intro renderer faults
  obtain ⟨out, failures, _, kept⟩ := formatter_error_kept_iff renderer faults ⟨"", false, false⟩
    ⟨"r1", "Get", .get (.object [])⟩ (start 1) (.format (.unsupported "boom")) (by decide) rfl
  have accepted : refusal? faults .echo ((start 1).sinks.writes + writesOf (headerPieces "Get"))
      (writesOf (echoPieces "Get" (.format (.unsupported "boom")))) = none := by decide
  rw [accepted] at kept
  exact ⟨kept.mpr (.inr nofun), out, failures⟩

/-- The record of a failure is refused, and the print ends with the refusal. -/
theorem error_masked_by_refused_record :
    let renderer : Renderer := fun _ _ _ => .error (.format (.unsupported "boom"))
    let faults : SinkFaults :=
      ⟨fun sink _ => if sink = .echo then some (.other "sink closed") else none, fun _ => none⟩
    let outcome := (start 1).printWith renderer faults ⟨"", false, false⟩
      ⟨"r1", "Get", .get (.object [])⟩
    outcome.2.consulted = 1 ∧ outcome.1 = failed (.other "sink closed") ∧
      outcome.1 ≠ .error (.format (.unsupported "boom")) :=
  ⟨rfl, rfl, nofun⟩

end Printing

end Telemetry
