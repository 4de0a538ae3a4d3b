/-!
Programs as trees of questions. A program asks its surroundings one question at a time and goes on
with the answer; what the answers are, and how the surroundings change in giving them, is said
elsewhere, so the same program can be run alone or in turns with others.
-/

namespace Telemetry

/-- A computation that asks questions and ends with a result. -/
inductive Program {Question : Type} (Answer : Question → Type) (α : Type) where
  | done (result : α)
  | ask (question : Question) (next : Answer question → Program Answer α)

namespace Program

variable {Question : Type} {Answer : Question → Type} {α β σ : Type}

def bind : Program Answer α → (α → Program Answer β) → Program Answer β
  | .done result, next => next result
  | .ask question more, next => .ask question (fun answer => bind (more answer) next)

instance : Monad (Program Answer) where
  pure := .done
  bind := bind

/-- Asks one question and ends with its answer. -/
def query (question : Question) : Program Answer (Answer question) := .ask question .done

/-- How surroundings in a state answer questions. -/
abbrev Handler (Answer : Question → Type) (σ : Type) :=
  (question : Question) → σ → Answer question × σ

/-- Runs a program alone, from a state to the result and the state in the end. -/
def run (handler : Handler Answer σ) : Program Answer α → σ → α × σ
  | .done result, state => (result, state)
  | .ask question next, state =>
      let (answer, state) := handler question state
      run handler (next answer) state

@[simp] theorem run_done (handler : Handler Answer σ) (result : α) (state : σ) :
    run handler (.done result) state = (result, state) := rfl

theorem run_ask (handler : Handler Answer σ) (question : Question)
    (next : Answer question → Program Answer α) (state : σ) :
    run handler (.ask question next) state =
      run handler (next (handler question state).1) (handler question state).2 := rfl

theorem run_bind (handler : Handler Answer σ) (program : Program Answer α)
    (next : α → Program Answer β) (state : σ) :
    run handler (program >>= next) state =
      run handler (next (run handler program state).1) (run handler program state).2 := by
  induction program generalizing state with
  | done result => rfl
  | ask question more ih => exact ih _ _

end Program

end Telemetry
