import Telemetry.Proofs.Print.Accepted
import Telemetry.Proofs.Print.Labels
import Telemetry.Proofs.Print.Underway

/-!
Prints one after the other, of which some fail. A print that fails is told from the others by its
result, its record and the count of failures; it leaves nothing in the text.
-/

namespace Telemetry

namespace Print

theorem contentText_of_error {renderer : Renderer} {settings : PrintSettings} {call : PrintCall}
    {reason : Error} (fails : outcome renderer settings call = .error reason) (label : List Char) :
    contentText renderer settings call label = [] := by
  obtain ⟨usual, refused⟩ := outcome_eq_error_iff.mp fails
  have noLayout : laidOut? settings call.message = none := Option.isNone_iff_eq_none.mp usual
  rw [rendering] at refused
  simp only [contentText, contentPieces, noLayout, refused]
  split
  · rfl
  · exact textOn_map .out .echo _

end Print

namespace Printing

open Print

/-- A print among others. The renderer may answer anew each time, and the number of declared targets
may have changed since the last one. -/
structure Occasion where
  call : PrintCall
  renderer : Renderer
  declared : Nat

namespace Occasion

def outcome (settings : PrintSettings) (occasion : Occasion) : Print.Result :=
  Print.outcome occasion.renderer settings occasion.call

def pieces (settings : PrintSettings) (occasion : Occasion) : List (Sink × List Char) :=
  Print.pieces occasion.renderer settings occasion.call occasion.declared

/-- The text that is written when the print succeeds. -/
def block (settings : PrintSettings) (occasion : Occasion) : List Char :=
  contentText occasion.renderer settings occasion.call
    (lineLabel settings occasion.declared occasion.call.source)

def succeeding (printed : List (Occasion × Print.Result)) : List Occasion :=
  (printed.filter (·.2.isOk)).map (·.1)

/-- The prints that fail, with their reasons. -/
def failing (printed : List (Occasion × Print.Result)) : List (Occasion × Error) :=
  printed.filterMap fun
    | (_, .ok ()) => none
    | (occasion, .error reason) => some (occasion, reason)

theorem succeeding_map (settings : PrintSettings) (occasions : List Occasion) :
    succeeding (occasions.map fun occasion => (occasion, occasion.outcome settings)) =
      occasions.filter fun occasion => (occasion.outcome settings).isOk := by
  simp [succeeding, List.filter_map, Function.comp_def]

theorem length_failing_cons (occasion : Occasion) (result : Print.Result)
    (later : List (Occasion × Print.Result)) :
    (failing ((occasion, result) :: later)).length =
      failuresOf result + (failing later).length := by
  cases result with
  | ok done => exact (Nat.zero_add _).symm
  | error reason => exact Nat.add_comm _ 1

end Occasion

open Occasion

/-- Prints one after the other, each with what came of it. -/
def printEach (settings : PrintSettings) :
    List Occasion → Printing → List (Occasion × Print.Result) × Printing
  | [], printing => ([], printing)
  | occasion :: later, printing =>
      let (result, after) := (printing.declaring occasion.declared).printWith occasion.renderer
        .none settings occasion.call
      let (printed, final) := printEach settings later after
      ((occasion, result) :: printed, final)

/-- What comes of prints, each of them with its own result, pieces and counts. -/
structure Account (settings : PrintSettings) (occasions : List Occasion) (initial : Printing)
    (outcome : List (Occasion × Print.Result) × Printing) : Prop where
  results : outcome.1 = occasions.map fun occasion => (occasion, occasion.outcome settings)
  content : ∀ sink, outcome.2.sinks.content sink = initial.sinks.content sink ++
    occasions.flatMap fun occasion => textOn sink (occasion.pieces settings)
  consulted : outcome.2.consulted =
    initial.consulted + occasions.countP fun occasion => needsRendering settings occasion.call
  failures : outcome.2.failures = initial.failures + (failing outcome.1).length

theorem account_printEach (settings : PrintSettings) (occasions : List Occasion)
    (initial : Printing) :
    Account settings occasions initial (printEach settings occasions initial) := by
  induction occasions generalizing initial with
  | nil => exact ⟨rfl, fun sink => by simp [printEach], rfl, rfl⟩
  | cons occasion later ih =>
      rw [printEach, print_accepted]
      have rest := ih { (initial.declaring occasion.declared).taking (occasion.pieces settings) with
        consulted := initial.consulted + (needsRendering settings occasion.call).toNat
        failures := initial.failures + failuresOf (occasion.outcome settings) }
      refine ⟨congrArg _ rest.results, fun sink => ?_, ?_, ?_⟩
      · have own := content_taking (initial.declaring occasion.declared)
          (occasion.pieces settings) sink
        refine (rest.content sink).trans ?_
        rw [List.flatMap_cons, ← List.append_assoc]
        exact congrArg (· ++ _) own
      · refine rest.consulted.trans ?_
        rw [List.countP_cons]
        cases needsRendering settings occasion.call <;> simp [Nat.add_assoc, Nat.add_comm]
      · refine rest.failures.trans ?_
        rw [length_failing_cons, Nat.add_assoc]
        rfl

variable {settings : PrintSettings}

/-- Only prints that succeed write a text. -/
theorem flatMap_out (occasions : List Occasion) :
    (occasions.flatMap fun occasion => textOn .out (occasion.pieces settings)) =
      (occasions.filter fun occasion => (occasion.outcome settings).isOk).flatMap
        (block settings) := by
  induction occasions with
  | nil => rfl
  | cons occasion later ih =>
      have own : textOn .out (occasion.pieces settings) = occasion.block settings := textOn_pieces _
      rw [List.flatMap_cons, ih, own, List.filter_cons]
      cases result : occasion.outcome settings with
      | ok done => exact List.flatMap_cons.symm
      | error reason =>
          have nothing : occasion.block settings = [] := contentText_of_error result _
          rw [nothing]
          rfl

/-- Only prints that fail leave a record, if failures are not logged. -/
theorem flatMap_echo (occasions : List Occasion) :
    (occasions.flatMap fun occasion => textOn .echo (occasion.pieces settings)) =
      if settings.loggingEnabled then []
      else (failing (occasions.map fun occasion => (occasion, occasion.outcome settings))).flatMap
        fun failure => failureRecord failure.1.call.label failure.2 := by
  induction occasions with
  | nil => exact (ite_self _).symm
  | cons occasion later ih =>
      have own : textOn .echo (occasion.pieces settings) =
          echoed settings occasion.call.label (occasion.outcome settings) := textOn_echo_pieces _
      rw [List.flatMap_cons, ih, own, List.map_cons, echoed.eq_def]
      cases result : occasion.outcome settings <;> cases settings.loggingEnabled <;> rfl

/-- What prints leave behind, when the sinks accept everything. The text holds the blocks of those
that succeed and would be the same without the others. The labels stand in order, and a failure has
its record and is counted. A print fails for the reason for which its message cannot be rendered,
and for no other; it asks for a rendering once, unless it lays out capabilities, and then it
succeeds. -/
theorem failures_leave_no_trace (settings : PrintSettings) (occasions : List Occasion)
    (initial : Printing) :
    let printed := (printEach settings occasions initial).1
    let final := (printEach settings occasions initial).2
    printed.map (·.1) = occasions ∧
      final.sinks.out =
        initial.sinks.out ++ (succeeding printed).flatMap (block settings) ∧
      (printEach settings (succeeding printed) initial).2.sinks.out = final.sinks.out ∧
      final.sinks.header = initial.sinks.header ++
        occasions.flatMap (fun occasion => occasion.call.label.toList ++ ['\n']) ∧
      final.sinks.echo = initial.sinks.echo ++
        (if settings.loggingEnabled then []
          else (failing printed).flatMap fun failure =>
            failureRecord failure.1.call.label failure.2) ∧
      (∀ occasion result, (occasion, result) ∈ printed → ∀ reason,
        result = .error reason ↔ needsRendering settings occasion.call = true ∧
          rendering occasion.renderer settings occasion.call = .error reason) ∧
      final.failures = initial.failures + (failing printed).length ∧
      final.consulted = initial.consulted +
        occasions.countP (fun occasion => needsRendering settings occasion.call) ∧
      ∀ occasion : Occasion, needsRendering settings occasion.call = false ↔
        (∃ content, occasion.call.message = .capabilities content) ∧ settings.format = "" := by
  intro printed final
  have account := account_printEach settings occasions initial
  have results : printed = occasions.map fun occasion => (occasion, occasion.outcome settings) :=
    account.results
  have out : final.sinks.out =
      initial.sinks.out ++ (succeeding printed).flatMap (block settings) := by
    rw [results, succeeding_map, ← flatMap_out]
    exact account.content .out
  refine ⟨?_, out, ?_, ?_, ?_, ?_, account.failures, account.consulted, ?_⟩
  · simp [results, Function.comp_def]
  · have again := (account_printEach settings (succeeding printed) initial).content .out
    rw [flatMap_out, results, succeeding_map, List.filter_filter] at again
    simp only [Bool.and_self] at again
    rw [out, results, succeeding_map]
    exact again
  · have header := account.content .header
    simp only [Occasion.pieces, textOn_header_pieces] at header
    exact header
  · rw [results, ← flatMap_echo]
    exact account.content .echo
  · intro occasion result member reason
    rw [results] at member
    obtain ⟨own, _, same⟩ := List.mem_map.mp member
    cases same
    exact outcome_eq_error_iff
  · exact fun occasion => needsRendering_eq_false_iff

end Printing

end Telemetry
