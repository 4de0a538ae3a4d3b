import Mathlib.Data.List.Induction
import Telemetry.Print.Together
import Telemetry.Proofs.Print.Labels
import Telemetry.Proofs.Print.Underway
import Telemetry.Proofs.Reconcile.Shape

/-!
Producers that print at the same time. Whatever the order of their steps, each sink holds the blocks
of the prints one after the other, in the order in which they took the lock.
-/

namespace Telemetry

namespace Printing

open Print

/-- What can happen while producers print. -/
inductive PrintStep where
  | producer (index : Nat)
  /-- Another number of targets comes to be declared. -/
  | declare (count : Nat)

/-- Producers in the middle of their prints. -/
abbrev Producers := Turns PrintQuestion.Answer Print.Result Printing

namespace Producers

def start (settings : PrintSettings) (calls : List (List PrintCall)) (printing : Printing) :
    Producers :=
  Turns.start printing (calls.map fun own => own.map (Print.program settings))

def step (formatter : Formatter) (faults : SinkFaults) (turns : Producers) :
    PrintStep → Producers
  | .producer index => Turns.step (handler formatter faults) turns (.participant index)
  | .declare count => Turns.step (handler formatter faults) turns (.outside (·.declaring count))

def run (formatter : Formatter) (faults : SinkFaults) (turns : Producers)
    (steps : List PrintStep) : Producers :=
  steps.foldl (step formatter faults) turns

end Producers

/-- A print that has ended. -/
structure Printed where
  owner : Nat
  call : PrintCall
  /-- The number of declared targets that the print was answered. -/
  declared : Nat
  /-- How many of its pieces were accepted. -/
  accepted : Nat
  result : Print.Result

namespace Printed

def pieces (formatter : Formatter) (settings : PrintSettings) (printed : Printed) :
    List (Sink × List Char) :=
  Print.pieces formatter.renderer settings printed.call printed.declared

/-- What the print has left in a sink. -/
def block (formatter : Formatter) (settings : PrintSettings) (printed : Printed) (sink : Sink) :
    List Char :=
  textOn sink ((printed.pieces formatter settings).take printed.accepted)

/-- All pieces were accepted, or the print has ended because one was refused. -/
def IsWhole (formatter : Formatter) (faults : SinkFaults) (settings : PrintSettings)
    (printed : Printed) : Prop :=
  (printed.pieces formatter settings).length ≤ printed.accepted ∨ Refused faults printed.result

end Printed

/-- What stands before the lines of the print. -/
def Printed.label (settings : PrintSettings) (printed : Printed) : List Char :=
  lineLabel settings printed.declared printed.call.source

/-- The lines of the whole block are those of the text without labels, each behind the label. -/
def Printed.IsLabelled (formatter : Formatter) (settings : PrintSettings) (printed : Printed) :
    Prop :=
  writtenLines (textOn .out (printed.pieces formatter settings)) =
    (writtenLines (outText formatter settings printed.call [])).map (printed.label settings ++ ·)

/-- The calls in the order in which they took the lock, the one that holds it last. -/
def callOrder (ended : List Printed) (begun : Option (Nat × PrintCall)) : List (Nat × PrintCall) :=
  ended.map (fun printed => (printed.owner, printed.call)) ++ begun.toList

def callsOf (index : Nat) (order : List (Nat × PrintCall)) : List PrintCall :=
  (order.filter fun entry => entry.1 = index).map (·.2)

theorem callsOf_append (index : Nat) (first second : List (Nat × PrintCall)) :
    callsOf index (first ++ second) = callsOf index first ++ callsOf index second := by
  simp [callsOf]

theorem callOrder_ended (ended : List Printed) (printed : Printed) :
    callOrder (ended ++ [printed]) none =
      callOrder ended (some (printed.owner, printed.call)) := by
  simp [callOrder]

/-- What a sink holds after some prints. -/
def holding (formatter : Formatter) (settings : PrintSettings) (initial : Printing)
    (ended : List Printed) (sink : Sink) : List Char :=
  initial.sinks.content sink ++ ended.flatMap (·.block formatter settings sink)

/-- Of each producer's calls those in the order have taken the lock and the others wait. -/
structure Lined (settings : PrintSettings) (calls : List (List PrintCall))
    (order : List (Nat × PrintCall)) (turns : Producers) : Prop where
  taken : turns.taken = order.map (·.1)
  known : ∀ entry ∈ order, entry.1 < calls.length
  size : turns.waiting.length = calls.length
  own : ∀ index own, calls[index]? = some own → ∃ left, own = callsOf index order ++ left ∧
    turns.waiting[index]? = some (left.map (Print.program settings))

/-- The sinks hold the blocks of the prints that have ended, and a beginning of what the one writes
that holds the lock. -/
structure InBlocks (formatter : Formatter) (faults : SinkFaults) (settings : PrintSettings)
    (initial : Printing) (turns : Producers) (ended : List Printed)
    (begun : Option (Nat × PrintCall)) : Prop where
  finished : turns.finished = ended.map fun printed => (printed.owner, printed.result)
  whole : ∀ printed ∈ ended, printed.IsWhole formatter faults settings
  free : turns.holder = none → begun = none ∧
    ∀ sink, turns.state.sinks.content sink = holding formatter settings initial ended sink
  held : ∀ owner program, turns.holder = some (owner, program) →
    ∃ call base, begun = some (owner, call) ∧
      (∀ sink, base.sinks.content sink = holding formatter settings initial ended sink) ∧
      (∀ sink, base.sinks.content sink <+: turns.state.sinks.content sink) ∧
      Underway formatter.renderer faults settings base call program turns.state

variable {formatter : Formatter} {faults : SinkFaults} {settings : PrintSettings}
  {calls : List (List PrintCall)} {order : List (Nat × PrintCall)} {initial : Printing}
  {turns : Producers} {ended : List Printed} {begun : Option (Nat × PrintCall)} {index : Nat}

theorem Lined.start (settings : PrintSettings) (calls : List (List PrintCall))
    (printing : Printing) : Lined settings calls [] (Producers.start settings calls printing) where
  taken := rfl
  known := nofun
  size := List.length_map _
  own := by
    intro index own listed
    refine ⟨own, rfl, ?_⟩
    simp [Producers.start, Turns.start, listed]

/-- The call that takes the lock is the next one of its producer. -/
theorem Lined.take (lined : Lined settings calls order turns)
    {program : PrintProgram Print.Result} {rest : List (PrintProgram Print.Result)}
    (standing : turns.waiting[index]? = some (program :: rest))
    (holder : Option (Nat × PrintProgram Print.Result)) :
    ∃ call, program = Print.program settings call ∧
      Lined settings calls (order ++ [(index, call)]) { turns with
        waiting := turns.waiting.set index rest
        holder := holder
        taken := turns.taken ++ [index] } := by
  obtain ⟨bound, _⟩ := List.getElem?_eq_some_iff.mp standing
  have inCalls : index < calls.length := lined.size ▸ bound
  obtain ⟨left, mine, waits⟩ := lined.own index _ (List.getElem?_eq_getElem inCalls)
  rw [waits, Option.some.injEq] at standing
  cases left with
  | nil => cases standing
  | cons call left =>
      obtain ⟨rfl, rfl⟩ := List.cons.inj standing
      refine ⟨call, rfl, ?_, ?_, ?_, ?_⟩
      · simp [lined.taken]
      · intro entry member
        rcases List.mem_append.mp member with earlier | last
        · exact lined.known entry earlier
        · cases List.mem_singleton.mp last
          exact inCalls
      · simp [lined.size]
      · intro other own listed
        by_cases same : index = other
        · subst same
          have isMine : own = callsOf index order ++ call :: left := by
            rw [← mine]
            exact (Option.some.inj ((List.getElem?_eq_getElem inCalls).symm.trans listed)).symm
          refine ⟨left, ?_, ?_⟩
          · rw [isMine, callsOf_append, List.append_assoc]
            simp [callsOf]
          · simp [List.getElem?_set_self bound]
        · obtain ⟨others, isTheirs, theyWait⟩ := lined.own other own listed
          refine ⟨others, ?_, ?_⟩
          · rw [isTheirs, callsOf_append]
            simp [callsOf, same]
          · simpa [List.getElem?_set_ne same] using theyWait

theorem Lined.congr (lined : Lined settings calls order turns) {later : Producers}
    (taken : later.taken = turns.taken) (waiting : later.waiting = turns.waiting) :
    Lined settings calls order later where
  taken := taken.trans lined.taken
  known := lined.known
  size := by rw [waiting, lined.size]
  own := by
    rw [waiting]
    exact lined.own

namespace InBlocks

theorem start (settings : PrintSettings) (calls : List (List PrintCall)) (printing : Printing) :
    InBlocks formatter faults settings printing (Producers.start settings calls printing) []
      none where
  finished := rfl
  whole := nofun
  free := fun _ => ⟨rfl, fun sink => by simp [holding, Producers.start, Turns.start]⟩
  held := nofun

theorem declare (inBlocks : InBlocks formatter faults settings initial turns ended begun)
    (count : Nat) :
    InBlocks formatter faults settings initial
      { turns with state := turns.state.declaring count } ended begun where
  finished := inBlocks.finished
  whole := inBlocks.whole
  free := inBlocks.free
  held := by
    intro owner program holds
    obtain ⟨call, base, isBegun, before, grown, underway⟩ := inBlocks.held owner program holds
    exact ⟨call, base, isBegun, before, grown, underway.declaring count⟩

theorem take (inBlocks : InBlocks formatter faults settings initial turns ended begun)
    (isFree : turns.holder = none) (call : PrintCall)
    (waiting : List (List (PrintProgram Print.Result))) (taken : List Nat) :
    InBlocks formatter faults settings initial { turns with
      waiting := waiting
      holder := some (index, Print.program settings call)
      taken := taken } ended (some (index, call)) where
  finished := inBlocks.finished
  whole := inBlocks.whole
  free := nofun
  held := by
    intro owner program holds
    cases holds
    exact ⟨call, turns.state, rfl, (inBlocks.free isFree).2, fun _ => List.prefix_refl _,
      .start turns.state call⟩

theorem ask (inBlocks : InBlocks formatter faults settings initial turns ended begun)
    {question : PrintQuestion} {next : question.Answer → PrintProgram Print.Result}
    (holds : turns.holder = some (index, .ask question next)) :
    InBlocks formatter faults settings initial { turns with
      state := (handler formatter faults question turns.state).2
      holder := some (index, next (handler formatter faults question turns.state).1) }
      ended begun where
  finished := inBlocks.finished
  whole := inBlocks.whole
  free := nofun
  held := by
    obtain ⟨call, base, isBegun, before, grown, underway⟩ := inBlocks.held _ _ holds
    intro owner program stillHolds
    cases stillHolds
    refine ⟨call, base, isBegun, before, fun sink => ?_, underway.ask⟩
    exact (grown sink).trans (handler_grows sink question turns.state)

/-- A print that gives the lock back has left its block in each sink. -/
theorem done (inBlocks : InBlocks formatter faults settings initial turns ended begun)
    {result : Print.Result} (holds : turns.holder = some (index, .done result)) :
    ∃ printed : Printed, begun = some (printed.owner, printed.call) ∧
      InBlocks formatter faults settings initial { turns with
        holder := none
        finished := turns.finished ++ [(index, result)] } (ended ++ [printed]) none := by
  obtain ⟨call, base, isBegun, before, grown, underway⟩ := inBlocks.held _ _ holds
  obtain ⟨declared, ran⟩ := underway.done
  obtain ⟨accepted, wrote, complete⟩ := delivers_print formatter.renderer faults settings call
    (base.declaring declared)
  rw [ran] at wrote complete
  refine ⟨⟨index, call, declared, accepted, result⟩, isBegun, ?_⟩
  exact {
    finished := by simp [inBlocks.finished]
    whole := by
      intro printed member
      rcases List.mem_append.mp member with earlier | last
      · exact inBlocks.whole printed earlier
      · cases List.mem_singleton.mp last
        exact complete
    free := by
      refine fun _ => ⟨rfl, fun sink => ?_⟩
      have written := wrote.content sink
      simp only [sinks_declaring] at written
      rw [written, before sink]
      simp [holding, Printed.block, Printed.pieces, declaring]
    held := nofun }

end InBlocks

/-- One step keeps the sinks in blocks and the calls lined up. -/
theorem step_inBlocks (inBlocks : InBlocks formatter faults settings initial turns ended begun)
    (lined : Lined settings calls (callOrder ended begun) turns) (step : PrintStep) :
    ∃ ended begun,
      InBlocks formatter faults settings initial (turns.step formatter faults step) ended begun ∧
        Lined settings calls (callOrder ended begun) (turns.step formatter faults step) := by
  cases step with
  | declare count => exact ⟨ended, begun, inBlocks.declare count, lined.congr rfl rfl⟩
  | producer index =>
      change ∃ ended begun,
        InBlocks formatter faults settings initial
            (turns.advance (handler formatter faults) index) ended begun ∧
          Lined settings calls (callOrder ended begun)
            (turns.advance (handler formatter faults) index)
      rcases turns.advance_cases (handler formatter faults) index with
        idle | ⟨program, rest, isFree, standing, takes⟩ | ⟨result, holds, gives⟩ |
        ⟨question, next, holds, asks⟩
      · rw [idle]
        exact ⟨ended, begun, inBlocks, lined⟩
      · rw [takes]
        obtain ⟨rfl, _⟩ := inBlocks.free isFree
        obtain ⟨call, rfl, linedAfter⟩ := lined.take standing (some (index, program))
        refine ⟨ended, some (index, call), inBlocks.take isFree call _ _, ?_⟩
        simpa [callOrder] using linedAfter
      · rw [gives]
        obtain ⟨printed, rfl, after⟩ := inBlocks.done holds
        refine ⟨ended ++ [printed], none, after, ?_⟩
        rw [callOrder_ended]
        exact lined.congr rfl rfl
      · rw [asks]
        exact ⟨ended, begun, inBlocks.ask holds, lined.congr rfl rfl⟩

theorem run_inBlocks (formatter : Formatter) (faults : SinkFaults) (settings : PrintSettings)
    (calls : List (List PrintCall)) (initial : Printing) (steps : List PrintStep) :
    let turns := (Producers.start settings calls initial).run formatter faults steps
    ∃ ended begun, InBlocks formatter faults settings initial turns ended begun ∧
      Lined settings calls (callOrder ended begun) turns := by
  induction steps using List.reverseRecOn with
  | nil => exact ⟨[], none, .start settings calls initial, .start settings calls initial⟩
  | append_singleton earlier last ih =>
      obtain ⟨ended, begun, inBlocks, lined⟩ := ih
      simp only [Producers.run, List.foldl_append, List.foldl_cons, List.foldl_nil]
      exact step_inBlocks inBlocks lined last

end Printing

end Telemetry
