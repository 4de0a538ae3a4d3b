import Telemetry.Program

/-!
Transcripts: what a program asks, and what it is answered, when it runs alone or as far as it has
come; and programs that never ask questions of some kind.
-/

namespace Telemetry

/-- A question with its answer. -/
structure Exchange {Question : Type} (Answer : Question → Type) where
  question : Question
  answer : Answer question

namespace Program

variable {Question : Type} {Answer : Question → Type} {α β σ : Type} {handler : Handler Answer σ}

def transcript (handler : Handler Answer σ) : Program Answer α → σ → List (Exchange Answer)
  | .done _, _ => []
  | .ask question next, state =>
      ⟨question, (handler question state).1⟩ ::
        transcript handler (next (handler question state).1) (handler question state).2

@[simp] theorem transcript_done (result : α) (state : σ) :
    transcript handler (.done result : Program Answer α) state = [] := rfl

theorem transcript_ask (question : Question) (next : Answer question → Program Answer α)
    (state : σ) :
    transcript handler (.ask question next) state =
      ⟨question, (handler question state).1⟩ ::
        transcript handler (next (handler question state).1) (handler question state).2 := rfl

theorem run_then (program : Program Answer α) (next : α → Program Answer β) (state : σ) :
    run handler (program.bind next) state =
      run handler (next (run handler program state).1) (run handler program state).2 :=
  run_bind handler program next state

theorem transcript_bind (program : Program Answer α) (next : α → Program Answer β) (state : σ) :
    transcript handler (program.bind next) state =
      transcript handler program state ++
        transcript handler (next (run handler program state).1) (run handler program state).2 := by
  induction program generalizing state with
  | done result => rfl
  | ask question more ih => exact congrArg (List.cons _) (ih _ _)

/-- Whatever it is answered, the program asks questions of one kind only. -/
def AsksOnly (kind : Question → Prop) : Program Answer α → Prop
  | .done _ => True
  | .ask question next => kind question ∧ ∀ answer, AsksOnly kind (next answer)

theorem AsksOnly.bind {kind : Question → Prop} {program : Program Answer α}
    {next : α → Program Answer β} (asksOnly : AsksOnly kind program)
    (after : ∀ result, AsksOnly kind (next result)) : AsksOnly kind (program.bind next) := by
  induction program with
  | done result => exact after result
  | ask question more ih => exact ⟨asksOnly.1, fun answer => ih answer (asksOnly.2 answer)⟩

/-- From a program to what is left of it when its questions have been answered so. -/
inductive Leads : Program Answer α → List (Exchange Answer) → Program Answer α → Prop
  | here (program : Program Answer α) : Leads program [] program
  | ask {question : Question} {next : Answer question → Program Answer α}
      {asked : List (Exchange Answer)} {left : Program Answer α} (answer : Answer question)
      (rest : Leads (next answer) asked left) :
      Leads (.ask question next) (⟨question, answer⟩ :: asked) left

/-- What has been asked under a lock when a participant has gone one step on. It begins anew when
the lock is given back. -/
def notedBy (handler : Handler Answer σ) (state : σ) (asked : List (Exchange Answer))
    (holder : Option (Nat × Program Answer α)) (index : Nat) : List (Exchange Answer) :=
  match holder with
  | none => []
  | some (owner, program) =>
      if owner = index then
        match program with
        | .done _ => []
        | .ask question _ => asked ++ [⟨question, (handler question state).1⟩]
      else asked

namespace Leads

variable {program : Program Answer α} {asked : List (Exchange Answer)}

theorem answered {question : Question} {next : Answer question → Program Answer α}
    (leads : Leads program asked (.ask question next)) (answer : Answer question) :
    Leads program (asked ++ [⟨question, answer⟩]) (next answer) := by
  generalize asking : Program.ask question next = left at leads
  induction leads with
  | here program =>
      subst asking
      exact .ask answer (.here _)
  | ask earlier rest ih => exact .ask earlier (ih asking)

theorem eq_of_done {result final : α} (leads : Leads (.done result) asked (.done final)) :
    asked = [] ∧ result = final := by
  cases leads
  exact ⟨rfl, rfl⟩

/-- A program that is put together of two goes through the one and then through the other. -/
theorem of_bind {next : α → Program Answer β} {result : β}
    (leads : Leads (program.bind next) asked (.done result)) :
    ∃ first second between, asked = first ++ second ∧ Leads program first (.done between) ∧
      Leads (next between) second (.done result) := by
  induction program generalizing asked with
  | done between => exact ⟨[], asked, between, rfl, .here _, leads⟩
  | ask question more ih =>
      cases leads with
      | ask answer rest =>
          obtain ⟨first, second, between, rfl, through, after⟩ := ih answer rest
          exact ⟨⟨question, answer⟩ :: first, second, between, rfl, .ask answer through, after⟩

end Leads

end Program

end Telemetry
