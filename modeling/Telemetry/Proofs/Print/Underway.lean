import Telemetry.Proofs.Print.Pieces

/-!
Prints in the middle of their work. The number of declared targets may change at any time; a print
asks for it once, and what it is before and after that is nothing to the print.
-/

namespace Telemetry

open Program (AsksOnly)

namespace Print

variable {α β : Type} {settings : PrintSettings} {program : PrintProgram α}
  {next : PrintProgram Result}

def IsSettled (question : PrintQuestion) : Prop := question ≠ .declaredCount

/-- Whatever it is answered, the program asks for the number of declared targets once at most. -/
inductive ReadsOnce : PrintProgram α → Prop where
  | done (result : α) : ReadsOnce (.done result)
  | reads {next : Nat → PrintProgram α} (settled : ∀ declared, AsksOnly IsSettled (next declared)) :
      ReadsOnce (.ask .declaredCount next)
  | asks {question : PrintQuestion} {next : question.Answer → PrintProgram α}
      (settled : IsSettled question) (rest : ∀ answer, ReadsOnce (next answer)) :
      ReadsOnce (.ask question next)

theorem ReadsOnce.of_settled (settled : AsksOnly IsSettled program) : ReadsOnce program := by
  induction program with
  | done result => exact .done result
  | ask question next ih => exact .asks settled.1 fun answer => ih answer (settled.2 answer)

theorem ReadsOnce.bind {more : α → PrintProgram β} (readsOnce : ReadsOnce program)
    (after : ∀ result, AsksOnly IsSettled (more result)) : ReadsOnce (program.bind more) := by
  induction readsOnce with
  | done result => exact .of_settled (after result)
  | reads settled => exact .reads fun declared => (settled declared).bind after
  | asks settled _ ih => exact .asks settled ih

theorem isSettled_write (sink : Sink) (text : List Char) : IsSettled (.write sink text) :=
  fun same => by cases same

theorem writing_settled {sink : Sink} {texts : List (List Char)}
    (settled : AsksOnly IsSettled next) : AsksOnly IsSettled (writing sink texts next) := by
  induction texts with
  | nil => exact settled
  | cons text texts ih =>
      rw [writing]
      split
      · exact ih
      · refine ⟨isSettled_write sink text, fun answer => ?_⟩
        cases answer with
        | error fault => trivial
        | ok done => exact ih

theorem writing_readsOnce {sink : Sink} {texts : List (List Char)}
    (readsOnce : ReadsOnce next) : ReadsOnce (writing sink texts next) := by
  induction texts with
  | nil => exact readsOnce
  | cons text texts ih =>
      rw [writing]
      split
      · exact ih
      · refine .asks (isSettled_write sink text) fun answer => ?_
        cases answer with
        | error fault => exact .done _
        | ok done => exact ih

theorem flushed_settled : AsksOnly IsSettled flushed := by
  refine ⟨nofun, ?_⟩
  rintro (fault | ⟨⟩) <;> trivial

theorem body_settled (call : PrintCall) (label : List Char) :
    AsksOnly IsSettled (body settings call label) := by
  rw [body_eq]
  split
  · exact writing_settled flushed_settled
  · refine ⟨nofun, ?_⟩
    rintro (reason | rendering)
    · simp only
      split
      · trivial
      · exact writing_settled trivial
    · exact writing_settled flushed_settled

theorem settled_settled (result : Result) : AsksOnly IsSettled (settled result) := by
  cases result with
  | ok done => trivial
  | error reason => exact ⟨nofun, fun _ => trivial⟩

theorem program_readsOnce (call : PrintCall) : ReadsOnce (Print.program settings call) :=
  .bind (writing_readsOnce (.reads fun _ => body_settled call _)) settled_settled

end Print

namespace Printing

open Print

variable {renderer : Renderer} {faults : SinkFaults} {settings : PrintSettings} {α : Type}
  {base state : Printing} {call : PrintCall}

def declaring (printing : Printing) (declared : Nat) : Printing :=
  { printing with declared := declared }

@[simp] theorem sinks_declaring (printing : Printing) (declared : Nat) :
    (printing.declaring declared).sinks = printing.sinks := rfl

theorem handler_declaring {question : PrintQuestion} (settled : IsSettled question)
    (printing : Printing) (declared : Nat) :
    handlerWith renderer faults question (printing.declaring declared) =
      ((handlerWith renderer faults question printing).1,
        (handlerWith renderer faults question printing).2.declaring declared) := by
  cases question with
  | declaredCount => exact absurd rfl settled
  | write sink text =>
      simp only [handlerWith, sinks_declaring]
      split <;> rfl
  | flush =>
      simp only [handlerWith, sinks_declaring]
      split <;> rfl
  | _ => rfl

/-- What is left of a print that has begun in a state, and the state that it has come to. Until it
asks for the number of declared targets that number is open, and then it is fixed. -/
inductive Underway (renderer : Renderer) (faults : SinkFaults) (settings : PrintSettings)
    (base : Printing) (call : PrintCall) : PrintProgram Print.Result → Printing → Prop where
  | unread {program : PrintProgram Print.Result} {state : Printing} (readsOnce : ReadsOnce program)
      (ends : ∀ declared, program.run (handlerWith renderer faults) (state.declaring declared) =
        (base.declaring declared).printWith renderer faults settings call) :
      Underway renderer faults settings base call program state
  | read {program : PrintProgram Print.Result} {state : Printing}
      (settled : AsksOnly IsSettled program) (declared : Nat)
      (ends : program.run (handlerWith renderer faults) (state.declaring declared) =
        (base.declaring declared).printWith renderer faults settings call) :
      Underway renderer faults settings base call program state

namespace Underway

theorem start (base : Printing) (call : PrintCall) :
    Underway renderer faults settings base call (Print.program settings call) base :=
  .unread (program_readsOnce call) fun _ => rfl

theorem declaring {program : PrintProgram Print.Result}
    (underway : Underway renderer faults settings base call program state) (declared : Nat) :
    Underway renderer faults settings base call program (state.declaring declared) := by
  cases underway with
  | unread readsOnce ends => exact .unread readsOnce ends
  | read settled own ends => exact .read settled own ends

theorem ask {question : PrintQuestion} {next : question.Answer → PrintProgram Print.Result}
    (underway : Underway renderer faults settings base call (.ask question next) state) :
    Underway renderer faults settings base call
      (next (handlerWith renderer faults question state).1)
      (handlerWith renderer faults question state).2 := by
  cases underway with
  | unread readsOnce ends =>
      cases readsOnce with
      | reads settled => exact .read (settled _) state.declared (ends state.declared)
      | asks settled rest =>
          refine .unread (rest _) fun declared => ?_
          rw [← ends declared, Program.run_ask, handler_declaring settled]
  | read settled declared ends =>
      refine .read (settled.2 _) declared ?_
      rw [← ends, Program.run_ask, handler_declaring settled.1]

/-- A print that has come to its end has done what it does by itself. -/
theorem done {result : Print.Result}
    (underway : Underway renderer faults settings base call (.done result) state) :
    ∃ declared, (base.declaring declared).printWith renderer faults settings call =
      (result, state.declaring declared) := by
  cases underway with
  | unread readsOnce ends => exact ⟨state.declared, (ends state.declared).symm⟩
  | read settled declared ends => exact ⟨declared, ends.symm⟩

/-- What a print has done so far is the beginning of what it does by itself. -/
theorem grows {program : PrintProgram Print.Result}
    (underway : Underway renderer faults settings base call program state) :
    ∃ declared, ∀ sink, state.sinks.content sink <+:
      ((base.declaring declared).printWith renderer faults settings call).2.sinks.content sink := by
  have beginning : ∃ declared,
      program.run (handlerWith renderer faults) (state.declaring declared) =
        (base.declaring declared).printWith renderer faults settings call := by
    cases underway with
    | unread readsOnce ends => exact ⟨state.declared, ends state.declared⟩
    | read settled declared ends => exact ⟨declared, ends⟩
  obtain ⟨declared, ends⟩ := beginning
  refine ⟨declared, fun sink => ?_⟩
  rw [← ends]
  exact run_grows sink program (state.declaring declared)

end Underway

end Printing

end Telemetry
