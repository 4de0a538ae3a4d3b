import Telemetry.Program

/-!
Programs in turns. Several participants share one state and one lock; each has a list of programs to
run and takes the lock for each of them. Only the holder of the lock asks questions, while the
surroundings may change the state between any two steps.
-/

namespace Telemetry

variable {Question : Type} {Answer : Question → Type} {α σ : Type}

/-- Participants in the middle of their programs. -/
structure Turns (Answer : Question → Type) (α σ : Type) where
  state : σ
  /-- What each participant has yet to begin, in its order. -/
  waiting : List (List (Program Answer α))
  /-- Who holds the lock, and what is left of the program it is held for. -/
  holder : Option (Nat × Program Answer α)
  /-- Who took the lock, first one first. -/
  taken : List Nat
  /-- Results with their owners, first one first. -/
  finished : List (Nat × α)

/-- One step of a participant, or a change from outside. -/
inductive TurnStep (σ : Type) where
  | participant (index : Nat)
  | outside (change : σ → σ)

namespace Turns

def start (state : σ) (programs : List (List (Program Answer α))) : Turns Answer α σ :=
  ⟨state, programs, none, [], []⟩

/-- A participant that holds the lock goes one question on, or gives the lock back at the end; one
that does not takes the lock when it is free, and else stays where it is. -/
def advance (handler : Program.Handler Answer σ) (turns : Turns Answer α σ) (index : Nat) :
    Turns Answer α σ :=
  match turns.holder with
  | none =>
      match turns.waiting[index]? with
      | some (program :: rest) =>
          { turns with
            waiting := turns.waiting.set index rest
            holder := some (index, program)
            taken := turns.taken ++ [index] }
      | _ => turns
  | some (owner, program) =>
      if owner = index then
        match program with
        | .done result =>
            { turns with holder := none, finished := turns.finished ++ [(index, result)] }
        | .ask question next =>
            let (answer, state) := handler question turns.state
            { turns with state := state, holder := some (index, next answer) }
      else turns

def step (handler : Program.Handler Answer σ) (turns : Turns Answer α σ) :
    TurnStep σ → Turns Answer α σ
  | .participant index => advance handler turns index
  | .outside change => { turns with state := change turns.state }

def run (handler : Program.Handler Answer σ) (turns : Turns Answer α σ)
    (schedule : List (TurnStep σ)) : Turns Answer α σ :=
  schedule.foldl (step handler) turns

/-- Whether nothing is left to do. -/
def isFinished (turns : Turns Answer α σ) : Bool :=
  turns.holder.isNone && turns.waiting.all List.isEmpty

/-- Lets the participants step one after the other, again and again, until all are finished or the
given number of rounds is over. -/
def rounds (handler : Program.Handler Answer σ) (turns : Turns Answer α σ) : Nat → Turns Answer α σ
  | 0 => turns
  | count + 1 =>
      if turns.isFinished then turns
      else
        rounds handler
          ((List.range turns.waiting.length).foldl (advance handler) turns) count

end Turns

end Telemetry
