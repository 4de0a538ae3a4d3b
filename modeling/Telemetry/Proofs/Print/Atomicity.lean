import Telemetry.Proofs.Print.Blocks

/-!
Printing is atomic: the sinks hold whole blocks in one order. The lines of a block are all labelled
or all not, but for texts of capabilities and labels that have a line break in them.
-/

namespace Telemetry.Printing

open Print

variable {formatter : Formatter} {faults : SinkFaults} {settings : PrintSettings}
  {calls : List (List PrintCall)} {order : List (Nat × PrintCall)} {initial : Printing}
  {turns : Producers} {ended : List Printed} {begun : Option (Nat × PrintCall)}

/-- The block of the print that holds the lock, as it will be when so many targets are declared. -/
def blockBegun (formatter : Formatter) (settings : PrintSettings)
    (begun : Option (Nat × PrintCall)) (declared : Nat) (sink : Sink) : List Char :=
  begun.elim [] fun entry => textOn sink (pieces formatter.renderer settings entry.2 declared)

theorem InBlocks.begun_isSome
    (inBlocks : InBlocks formatter faults settings initial turns ended begun) :
    begun.isSome = turns.holder.isSome := by
  cases holder : turns.holder with
  | none =>
      rw [(inBlocks.free holder).1]
      rfl
  | some holding =>
      obtain ⟨call, _, isBegun, _⟩ := inBlocks.held holding.1 holding.2 holder
      rw [isBegun]
      rfl

/-- Beyond the blocks of the prints that have ended, a sink holds nothing but a beginning of the
block of the print that is under way. -/
theorem InBlocks.content (inBlocks : InBlocks formatter faults settings initial turns ended begun) :
    ∃ declared, ∀ sink, ∃ beginning,
      turns.state.sinks.content sink =
        holding formatter settings initial ended sink ++ beginning ∧
      beginning <+: blockBegun formatter settings begun declared sink := by
  cases holder : turns.holder with
  | none =>
      obtain ⟨rfl, content⟩ := inBlocks.free holder
      exact ⟨0, fun sink => ⟨[], by simp [content sink], List.nil_prefix⟩⟩
  | some holds =>
      obtain ⟨call, base, rfl, before, grown, underway⟩ := inBlocks.held holds.1 holds.2 holder
      obtain ⟨declared, limit⟩ := underway.grows
      refine ⟨declared, fun sink => ?_⟩
      obtain ⟨beginning, written⟩ := grown sink
      refine ⟨beginning, by rw [← before sink, written], ?_⟩
      obtain ⟨accepted, wrote, _⟩ := delivers_print formatter.renderer faults settings call
        (base.declaring declared)
      have within := limit sink
      rw [← written, wrote.content sink, sinks_declaring, List.prefix_append_right_inj] at within
      exact within.trans (isPrefix_textOn_take _ _ _)

/-- When nothing is left to do, every call of every producer has ended. -/
theorem all_ended (inBlocks : InBlocks formatter faults settings initial turns ended begun)
    (lined : Lined settings calls (callOrder ended begun) turns)
    (finished : turns.isFinished = true) :
    begun = none ∧ ∀ index own, calls[index]? = some own →
      callsOf index (callOrder ended begun) = own := by
  simp only [Turns.isFinished, Bool.and_eq_true, Option.isNone_iff_eq_none, List.all_eq_true,
    List.isEmpty_iff] at finished
  refine ⟨(inBlocks.free finished.1).1, ?_⟩
  intro index own listed
  obtain ⟨left, isOwn, waits⟩ := lined.own index own listed
  have nothing := finished.2 _ (List.mem_of_getElem? waits)
  rw [isOwn, List.map_eq_nil_iff.mp nothing, List.append_nil]

theorem isLabelled_iff (printed : Printed) :
    printed.IsLabelled formatter settings ↔
      textOn .out (printed.pieces formatter settings) = [] ∨ printed.label settings = [] ∨
        ('\n' ∉ printed.label settings ∧
          ∀ content, laidOut? settings printed.call.message = some content →
            content.HasWholeLines) := by
  rw [Printed.IsLabelled, Printed.pieces, textOn_pieces]
  exact contentText_labelled_iff (printed.label settings)

/-- However the producers take their turns and whatever comes to be declared, there is one order of
their calls, that in which they take the lock, and the sinks hold the blocks of the calls in this
order: whole ones, if no sink refuses a piece, and at the end a beginning of the block of the call
that has not ended. The lines of a block are labelled throughout or not at all, unless there is a
line break in its label or in one of the lines in which capabilities are laid out. -/
theorem prints_stay_whole (formatter : Formatter) (faults : SinkFaults) (settings : PrintSettings)
    (calls : List (List PrintCall)) (initial : Printing) (steps : List PrintStep) :
    let turns := (Producers.start settings calls initial).run formatter faults steps
    ∃ ended begun,
      Lined settings calls (callOrder ended begun) turns ∧
      (turns.isFinished = true → begun = none ∧ ∀ index own, calls[index]? = some own →
        callsOf index (callOrder ended begun) = own) ∧
      begun.isSome = turns.holder.isSome ∧
      turns.finished = ended.map (fun printed => (printed.owner, printed.result)) ∧
      (∀ printed ∈ ended, printed.IsWhole formatter faults settings) ∧
      (∃ declared, ∀ sink, ∃ beginning,
        turns.state.sinks.content sink = initial.sinks.content sink ++
          ended.flatMap (·.block formatter settings sink) ++ beginning ∧
        beginning <+: blockBegun formatter settings begun declared sink) ∧
      ∀ printed ∈ ended, (printed.IsLabelled formatter settings ↔
        textOn .out (printed.pieces formatter settings) = [] ∨ printed.label settings = [] ∨
          ('\n' ∉ printed.label settings ∧
            ∀ content, laidOut? settings printed.call.message = some content →
              content.HasWholeLines)) := by
  intro turns
  obtain ⟨ended, begun, inBlocks, lined⟩ :=
    run_inBlocks formatter faults settings calls initial steps
  exact ⟨ended, begun, lined, all_ended inBlocks lined, inBlocks.begun_isSome, inBlocks.finished,
    inBlocks.whole, inBlocks.content, fun printed _ => isLabelled_iff printed⟩

/-- Two producers that step in turns while another target comes to be declared. -/
theorem two_producers_stay_whole :
    let settings : PrintSettings := ⟨"", false, false⟩
    let call (source label : String) : PrintCall := ⟨source, label, .get (.object [])⟩
    let calls := [[call "a" "1", call "a" "2"], [call "b" "3"]]
    let round : List PrintStep := [.producer 1, .producer 0]
    let steps := (List.replicate 9 round).flatten ++ .declare 2 ::
      (List.replicate 20 round).flatten
    let turns := (Producers.start settings calls (Printing.start 1)).run .builtIn .none steps
    turns.isFinished = true ∧ ∃ ended,
      (∀ index own, calls[index]? = some own → callsOf index (callOrder ended none) = own) ∧
      (∀ printed ∈ ended, printed.IsWhole .builtIn .none settings) ∧
      ∀ sink, turns.state.sinks.content sink =
        ended.flatMap (·.block .builtIn settings sink) := by
  intro settings call calls round steps
  dsimp only
  have finished : ((Producers.start settings calls (Printing.start 1)).run .builtIn .none
      steps).isFinished = true := by decide +kernel
  obtain ⟨ended, begun, _, all, _, _, whole, ⟨_, content⟩, _⟩ :=
    prints_stay_whole .builtIn .none settings calls (Printing.start 1) steps
  obtain ⟨rfl, order⟩ := all finished
  refine ⟨finished, ended, order, whole, fun sink => ?_⟩
  obtain ⟨beginning, written, within⟩ := content sink
  have nothing : (Printing.start 1).sinks.content sink = [] := by cases sink <;> rfl
  rw [written, List.prefix_nil.mp within, List.append_nil, nothing, List.nil_append]

/-- A version with a line break in it, printed with labels: its second line has none. -/
theorem broken_version_half_labelled :
    let settings : PrintSettings := ⟨"", false, false⟩
    let call : PrintCall := ⟨"r1", "Capabilities", .capabilities ⟨[], [], "0.8.0\nbeta"⟩⟩
    let turns := (Producers.start settings [[call]] (start 2)).run .builtIn .none
      (List.replicate 9 (.producer 0))
    turns.isFinished = true ∧ turns.finished.map (·.1) = [0] ∧
      writtenLines turns.state.sinks.out =
        ["[r1] gNMI version: 0.8.0".toList, "beta".toList, "[r1] supported models:".toList,
          "[r1] supported encodings:".toList] := by
  decide +kernel

end Telemetry.Printing
