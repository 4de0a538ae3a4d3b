import Mathlib.Data.List.Induction
import Telemetry.Proofs.Reconcile.Shape
import Telemetry.Proofs.Transcript

/-!
Passes in turns are passes one after the other. A pass reads what is declared right after it has
taken the lock and never again, so what is declared in the meantime is nothing to it, and nobody
else asks a question before it gives the lock back.
-/

namespace Telemetry

open Program (AsksOnly)

namespace Pass

def IsSettled (question : PassQuestion) : Prop := question ≠ .declared

theorem deleteAll_settled (names : List String) (report : Report) :
    AsksOnly IsSettled (deleteAll names report) := by
  induction names generalizing report with
  | nil => trivial
  | cons name names ih =>
      refine ⟨nofun, ?_⟩
      rintro (reason | ⟨⟩)
      · exact ⟨nofun, fun _ => ⟨nofun, fun _ => ih _⟩⟩
      · exact ⟨nofun, fun _ => ih _⟩

theorem addAll_settled (targets : List (String × Target)) (report : Report) :
    AsksOnly IsSettled (addAll targets report) := by
  induction targets generalizing report with
  | nil => trivial
  | cons first rest ih =>
      refine ⟨nofun, ?_⟩
      rintro (reason | ⟨⟩)
      · exact ⟨nofun, fun _ => ⟨nofun, fun _ => ih _⟩⟩
      · exact ⟨nofun, fun _ => ⟨nofun, fun _ => ih _⟩⟩

theorem finish_settled (report : Report) : AsksOnly IsSettled (finish report) := by
  unfold finish
  split
  · trivial
  · exact ⟨nofun, fun _ => trivial⟩

theorem afterReading_settled (answer : Except Error TargetSet) :
    AsksOnly IsSettled (afterReading answer) := by
  rcases afterReading_cases answer with ⟨declared, _, next⟩ | ⟨reason, _, _, next⟩
  · rw [next]
    exact ⟨nofun, fun live =>
      ((deleteAll_settled _ _).bind (addAll_settled _)).bind finish_settled⟩
  · rw [next]
    exact ⟨nofun, fun _ => trivial⟩

end Pass

namespace Reconciler

variable {σ ρ τ α : Type}

def withSource (state : Reconciler σ ρ τ) (source : σ) : Reconciler σ ρ τ :=
  { state with source := source }

/-- The source that is read when a pass goes on. -/
def reading (program : PassProgram (Option Report)) (state : Reconciler σ ρ τ) : List σ :=
  match program with
  | .ask .declared _ => [state.source]
  | _ => []

theorem reading_settled {program : PassProgram (Option Report)}
    (settled : AsksOnly Pass.IsSettled program) (state : Reconciler σ ρ τ) :
    reading program state = [] := by
  cases program with
  | done result => rfl
  | ask question next =>
      cases question with
      | declared => exact absurd rfl settled.1
      | _ => rfl

variable [TargetSource σ] [TargetRegistry ρ τ] {program : PassProgram α}

theorem handler_withSource {question : PassQuestion} (settled : Pass.IsSettled question)
    (state : Reconciler σ ρ τ) (source : σ) :
    handler question (state.withSource source) =
      ((handler question state).1, (handler question state).2.withSource source) := by
  cases question with
  | declared => exact absurd rfl settled
  | _ => rfl

/-- What is declared is nothing to a pass that has read it. -/
theorem run_withSource (settled : AsksOnly Pass.IsSettled program) (state : Reconciler σ ρ τ)
    (source : σ) :
    program.run handler (state.withSource source) =
      ((program.run handler state).1, (program.run handler state).2.withSource source) ∧
    program.transcript handler (state.withSource source) = program.transcript handler state := by
  induction program generalizing state with
  | done result => exact ⟨rfl, rfl⟩
  | ask question next ih =>
      have answered := handler_withSource settled.1 state source
      obtain ⟨sameRun, sameTranscript⟩ := ih _ (settled.2 _) (handler question state).2
      constructor
      · rw [Program.run_ask, Program.run_ask, answered]
        exact sameRun
      · rw [Program.transcript_ask, Program.transcript_ask, answered]
        exact congrArg (List.cons _) sameTranscript

/-- What came of passes that ran one after the other. -/
structure Serial (σ ρ τ : Type) where
  state : Reconciler σ ρ τ
  /-- Questions with their answers, each with who asked it, first one first. -/
  asked : List (Nat × Exchange PassQuestion.Answer)
  finished : List (Nat × Option Report)

/-- One more pass, over a source as it is when the pass begins. -/
def Serial.pass (serial : Serial σ ρ τ) (owner : Nat) (source : σ) : Serial σ ρ τ :=
  let before := serial.state.withSource source
  ⟨(Pass.program.run handler before).2,
    serial.asked ++ (Pass.program.transcript handler before).map (owner, ·),
    serial.finished ++ [(owner, (Pass.program.run handler before).1)]⟩

/-- Passes one after the other, each with its owner and its source. -/
def serially (state : Reconciler σ ρ τ) (passes : List (Nat × σ)) : Serial σ ρ τ :=
  passes.foldl (fun serial pass => serial.pass pass.1 pass.2) ⟨state, [], []⟩

theorem serially_append (state : Reconciler σ ρ τ) (passes : List (Nat × σ)) (owner : Nat)
    (source : σ) :
    serially state (passes ++ [(owner, source)]) = (serially state passes).pass owner source := by
  simp [serially]

/-- What can happen while calls are under way. -/
inductive CallStep (σ : Type) where
  | call (index : Nat)
  /-- Something else comes to be declared. -/
  | declare (source : σ)

/-- Passes in turns, and what has been asked in them. -/
structure Minutes (σ ρ τ : Type) where
  passes : Passes σ ρ τ
  asked : List (Nat × Exchange PassQuestion.Answer)
  /-- The source at each reading of what is declared, first one first. -/
  sources : List σ

namespace Minutes

def start (state : Reconciler σ ρ τ) (notices : List (List Notice)) : Minutes σ ρ τ :=
  ⟨Turns.start state (notices.map (·.filterMap passFor)), [], []⟩

/-- The question that a pass asks when it goes on, with its answer. -/
def asking (program : PassProgram (Option Report)) (state : Reconciler σ ρ τ) :
    List (Exchange PassQuestion.Answer) :=
  match program with
  | .ask question _ => [⟨question, (handler question state).1⟩]
  | .done _ => []

def step (minutes : Minutes σ ρ τ) : CallStep σ → Minutes σ ρ τ
  | .call index =>
      let passes := minutes.passes.step handler (.participant index)
      match minutes.passes.holder with
      | some (owner, program) =>
          if owner = index then
            ⟨passes, minutes.asked ++ (asking program minutes.passes.state).map (owner, ·),
              minutes.sources ++ reading program minutes.passes.state⟩
          else ⟨passes, minutes.asked, minutes.sources⟩
      | none => ⟨passes, minutes.asked, minutes.sources⟩
  | .declare source =>
      { minutes with passes := minutes.passes.step handler (.outside (·.withSource source)) }

def run (minutes : Minutes σ ρ τ) (steps : List (CallStep σ)) : Minutes σ ρ τ :=
  steps.foldl step minutes

/-- The holder of the lock goes on alone to the end of its pass. -/
def completed (minutes : Minutes σ ρ τ) : Minutes σ ρ τ :=
  match minutes.passes.holder with
  | none => minutes
  | some (owner, program) =>
      let state := minutes.passes.state
      ⟨{ minutes.passes with
          state := (program.run handler state).2
          holder := none
          finished := minutes.passes.finished ++ [(owner, (program.run handler state).1)] },
        minutes.asked ++ (program.transcript handler state).map (owner, ·),
        minutes.sources ++ reading program state⟩

/-- Nobody takes the lock any more, and what was asked and what ended stays. -/
theorem completed_continues (minutes : Minutes σ ρ τ) :
    minutes.completed.passes.taken = minutes.passes.taken ∧
      List.IsPrefix minutes.asked minutes.completed.asked ∧
      List.IsPrefix minutes.passes.finished minutes.completed.passes.finished := by
  unfold completed
  split
  · exact ⟨rfl, List.prefix_refl _, List.prefix_refl _⟩
  · exact ⟨rfl, List.prefix_append _ _, List.prefix_append _ _⟩

/-- The passes so far are as they would be one after the other; the source may be another since. -/
structure Agrees (minutes : Minutes σ ρ τ) (serial : Serial σ ρ τ) : Prop where
  state : ∀ source, minutes.passes.state.withSource source = serial.state.withSource source
  asked : minutes.asked = serial.asked
  finished : minutes.passes.finished = serial.finished

variable {minutes : Minutes σ ρ τ} {owner : Nat} {state : Reconciler σ ρ τ}

theorem step_done {result : Option Report}
    (held : minutes.passes.holder = some (owner, .done result)) :
    minutes.step (.call owner) = minutes.completed := by
  simp only [step, completed, held, if_true, Turns.step, Turns.advance]
  simp [asking, reading]

theorem step_ask {question : PassQuestion} {next : question.Answer → PassProgram (Option Report)}
    (held : minutes.passes.holder = some (owner, .ask question next)) :
    minutes.step (.call owner) =
      ⟨{ minutes.passes with
          state := (handler question minutes.passes.state).2
          holder := some (owner, next (handler question minutes.passes.state).1) },
        minutes.asked ++ [(owner, ⟨question, (handler question minutes.passes.state).1⟩)],
        minutes.sources ++ reading (.ask question next) minutes.passes.state⟩ := by
  simp only [step, held, if_true, Turns.step, Turns.advance, asking, List.map_cons, List.map_nil]

theorem completed_step_ask {question : PassQuestion}
    {next : question.Answer → PassProgram (Option Report)}
    (held : minutes.passes.holder = some (owner, .ask question next))
    (settled : AsksOnly Pass.IsSettled (next (handler question minutes.passes.state).1)) :
    (minutes.step (.call owner)).completed = minutes.completed := by
  rw [step_ask held]
  simp only [completed, held, Program.run_ask, Program.transcript_ask, List.map_cons,
    List.append_assoc, List.singleton_append, reading_settled settled _, List.append_nil]

theorem completed_declare {program : PassProgram (Option Report)} {serial : Serial σ ρ τ}
    (held : minutes.passes.holder = some (owner, program))
    (settled : AsksOnly Pass.IsSettled program) (source : σ)
    (agrees : minutes.completed.Agrees serial) :
    (minutes.step (.declare source)).completed.Agrees serial := by
  obtain ⟨sameRun, sameTranscript⟩ := run_withSource settled minutes.passes.state source
  simp only [completed, held] at agrees
  simp only [step, completed, Turns.step, held]
  rw [sameRun, sameTranscript]
  exact ⟨agrees.state, agrees.asked, agrees.finished⟩

/-- A pass that is about to read what is declared ends as one that begins then. -/
theorem Agrees.pass {serial : Serial σ ρ τ} (agrees : minutes.Agrees serial)
    (held : minutes.passes.holder = some (owner, Pass.program)) :
    minutes.completed.Agrees (serial.pass owner minutes.passes.state.source) := by
  have before : serial.state.withSource minutes.passes.state.source = minutes.passes.state :=
    (agrees.state _).symm
  simp only [completed, held, Serial.pass, before]
  exact ⟨fun _ => rfl, congrArg (· ++ _) agrees.asked, congrArg (· ++ _) agrees.finished⟩

/-- The passes that have taken the lock are as they would be one after the other. -/
structure InOrder (state : Reconciler σ ρ τ) (minutes : Minutes σ ρ τ) : Prop where
  free : minutes.passes.holder = none → minutes.sources.length = minutes.passes.taken.length ∧
    minutes.Agrees (serially state (minutes.passes.taken.zip minutes.sources))
  held : ∀ owner program, minutes.passes.holder = some (owner, program) →
    ∃ earlier, minutes.passes.taken = earlier ++ [owner] ∧
      ((program = Pass.program ∧ minutes.sources.length = earlier.length ∧
          minutes.Agrees (serially state (earlier.zip minutes.sources))) ∨
        (AsksOnly Pass.IsSettled program ∧
          minutes.sources.length = minutes.passes.taken.length ∧
          minutes.completed.Agrees (serially state (minutes.passes.taken.zip minutes.sources))))
  waiting : ∀ programs ∈ minutes.passes.waiting, ∀ program ∈ programs, program = Pass.program

theorem start_inOrder (state : Reconciler σ ρ τ) (notices : List (List Notice)) :
    InOrder state (start state notices) where
  free := fun _ => ⟨rfl, fun _ => rfl, rfl, rfl⟩
  held := by intro owner program held; cases held
  waiting := fun _ listed _ waits => eq_program_of_waiting listed waits

namespace InOrder

theorem declare (inOrder : InOrder state minutes) (source : σ) :
    InOrder state (minutes.step (.declare source)) where
  free := by
    intro isFree
    obtain ⟨sameLength, agrees⟩ := inOrder.free isFree
    exact ⟨sameLength, agrees.state, agrees.asked, agrees.finished⟩
  held := by
    intro owner program held
    obtain ⟨earlier, taken, ⟨unread, sameLength, agrees⟩ | ⟨settled, sameLength, agrees⟩⟩ :=
      inOrder.held owner program held
    · exact ⟨earlier, taken, .inl ⟨unread, sameLength, agrees.state, agrees.asked, agrees.finished⟩⟩
    · have before : minutes.passes.holder = some (owner, program) := held
      have after := completed_declare before settled source agrees
      exact ⟨earlier, taken, .inr ⟨settled, sameLength, after⟩⟩
  waiting := inOrder.waiting

theorem goOn (inOrder : InOrder state minutes) {program : PassProgram (Option Report)}
    (held : minutes.passes.holder = some (owner, program)) :
    InOrder state (minutes.step (.call owner)) := by
  obtain ⟨earlier, taken, ⟨rfl, sameLength, agrees⟩ | ⟨settled, sameLength, agrees⟩⟩ :=
    inOrder.held owner program held
  · -- the pass reads what is declared next, and from then on its source is settled
    have settled := Pass.afterReading_settled (handler .declared minutes.passes.state).1
    have agreesAfter := agrees.pass held
    rw [Pass.program_eq] at held
    rw [← completed_step_ask held settled] at agreesAfter
    have after := step_ask held
    exact {
      free := by
        rw [after]
        exact nofun
      held := by
        intro who left isHeld
        rw [after] at isHeld
        cases isHeld
        refine ⟨earlier, by rw [after]; exact taken, .inr ⟨settled, ?_, ?_⟩⟩
        · rw [after]
          simp [reading, taken, sameLength]
        · have lined : (minutes.step (.call owner)).passes.taken.zip
              (minutes.step (.call owner)).sources =
              earlier.zip minutes.sources ++ [(owner, minutes.passes.state.source)] := by
            rw [after]
            simp only [taken, reading]
            exact List.zip_append sameLength.symm
          rw [lined, serially_append]
          exact agreesAfter
      waiting := by
        rw [after]
        exact inOrder.waiting }
  · have sameSources :
        minutes.sources ++ reading program minutes.passes.state = minutes.sources := by
      rw [reading_settled settled, List.append_nil]
    cases program with
    | done result =>
        rw [step_done held]
        simp only [completed, held, sameSources] at agrees ⊢
        exact {
          free := fun _ => ⟨sameLength, agrees⟩
          held := nofun
          waiting := inOrder.waiting }
    | ask question next =>
        rw [← completed_step_ask held (settled.2 _)] at agrees
        have after := step_ask held
        rw [sameSources] at after
        rw [after] at agrees ⊢
        exact {
          free := nofun
          held := by
            intro who left isHeld
            cases isHeld
            exact ⟨earlier, taken, .inr ⟨settled.2 _, sameLength, agrees⟩⟩
          waiting := inOrder.waiting }

/-- The lock is taken when it is free, and nothing happens to who waits for it when it is not. -/
theorem call (inOrder : InOrder state minutes) (index : Nat) :
    InOrder state (minutes.step (.call index)) := by
  cases held : minutes.passes.holder with
  | some holding =>
      obtain ⟨owner, program⟩ := holding
      by_cases own : owner = index
      · subst own
        exact inOrder.goOn held
      · have same : minutes.step (.call index) = minutes := by
          simp only [step, Turns.step, Turns.advance, held, if_neg own]
        rw [same]
        exact inOrder
  | none =>
      obtain ⟨sameLength, agrees⟩ := inOrder.free held
      simp only [step, Turns.step, Turns.advance, held]
      split
      · rename_i program rest standing
        obtain ⟨unread, others⟩ := Turns.forall_waiting_take inOrder.waiting standing
        exact {
          free := nofun
          held := by
            intro owner taking isHeld
            cases isHeld
            exact ⟨minutes.passes.taken, rfl,
              .inl ⟨unread, sameLength, agrees.state, agrees.asked, agrees.finished⟩⟩
          waiting := others }
      · exact inOrder

end InOrder

theorem run_inOrder (state : Reconciler σ ρ τ) (notices : List (List Notice))
    (steps : List (CallStep σ)) : InOrder state ((start state notices).run steps) := by
  induction steps using List.reverseRecOn with
  | nil => exact start_inOrder state notices
  | append_singleton earlier last ih =>
      rw [run, List.foldl_append]
      cases last with
      | call index => exact ih.call index
      | declare source => exact ih.declare source

/-- When the holder of the lock has gone on to the end, everything is as if the passes had been one
after the other in the order in which they took the lock. -/
theorem completed_agrees (inOrder : InOrder state minutes) :
    minutes.completed.sources.length = minutes.completed.passes.taken.length ∧
      minutes.completed.Agrees
        (serially state (minutes.completed.passes.taken.zip minutes.completed.sources)) := by
  cases held : minutes.passes.holder with
  | none =>
      have same : minutes.completed = minutes := by simp only [completed, held]
      rw [same]
      exact inOrder.free held
  | some holding =>
      obtain ⟨owner, program⟩ := holding
      have sameTaken : minutes.completed.passes.taken = minutes.passes.taken := by
        simp only [completed, held]
      have sources : minutes.completed.sources =
          minutes.sources ++ reading program minutes.passes.state := by
        simp only [completed, held]
      rw [sameTaken, sources]
      obtain ⟨earlier, taken, ⟨rfl, sameLength, agrees⟩ | ⟨settled, sameLength, agrees⟩⟩ :=
        inOrder.held owner program held
      · have read : reading Pass.program minutes.passes.state = [minutes.passes.state.source] := rfl
        rw [read, taken, List.zip_append sameLength.symm]
        refine ⟨by simp [sameLength], ?_⟩
        have after := agrees.pass held
        rw [← serially_append] at after
        exact after
      · rw [reading_settled settled, List.append_nil]
        exact ⟨sameLength, agrees⟩

end Minutes

end Reconciler

end Telemetry
