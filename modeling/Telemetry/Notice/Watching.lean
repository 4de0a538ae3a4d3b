import Telemetry.Notice.Basic
import Telemetry.Program

/-!
Watchers at work. Each watcher takes the notices of its queue one after the other and has a program
run for each that calls for one, under a lock that all watchers share. A watcher that is idle when
the collector shuts down ends and leaves the rest of its queue; one that has taken a notice sees it
through first.
-/

namespace Telemetry

variable {Question : Type} {Answer : Question → Type} {α σ : Type}

/-- The number of notices that a queue holds. -/
def queueCapacity : Nat := 64

structure Watcher where
  /-- Notices that were sent and not taken, first one first. -/
  queue : List Notice
  /-- Whether nothing more will be sent. -/
  closed : Bool
  /-- The notice whose program waits for the lock or runs. -/
  taken : Option Notice
  /-- The notices that were taken so far, first one first. -/
  handed : List Notice
  ended : Bool
deriving DecidableEq, Repr

def Watcher.start : Watcher := ⟨[], false, none, [], false⟩

/-- Watchers in the middle of their work. -/
structure Watching (Answer : Question → Type) (α σ : Type) where
  state : σ
  /-- Who holds the lock, and what is left of the program it is held for. -/
  holder : Option (Nat × Program Answer α)
  watchers : List Watcher
  shutdown : Bool
  /-- Results with the watchers they belong to, first one first. -/
  finished : List (Nat × α)

inductive WatchStep (σ : Type) where
  /-- A watcher goes one step on. -/
  | watcher (index : Nat)
  /-- A notice is put on the queue of a watcher. -/
  | send (index : Nat) (notice : Notice)
  | close (index : Nat)
  /-- A watcher breaks down. -/
  | abandon (index : Nat)
  | shutdown
  | outside (change : σ → σ)

namespace Watching

/-- How notices are handled: the program that a notice calls for, if it calls for one, and how
questions are answered. -/
structure Handling (Answer : Question → Type) (α σ : Type) where
  program : Notice → Option (Program Answer α)
  handler : Program.Handler Answer σ

def replaced (watching : Watching Answer α σ) (index : Nat) (watcher : Watcher) :
    Watching Answer α σ :=
  { watching with watchers := watching.watchers.set index watcher }

/-- An idle watcher ends when the collector shuts down or nothing more will come, and else takes
the next notice, if there is one. -/
def takeNext (handling : Handling Answer α σ) (watching : Watching Answer α σ) (index : Nat)
    (watcher : Watcher) : Watching Answer α σ :=
  if watching.shutdown then watching.replaced index { watcher with ended := true }
  else
    match watcher.queue with
    | notice :: queue =>
        watching.replaced index { watcher with
          queue := queue
          handed := watcher.handed ++ [notice]
          taken := if (handling.program notice).isSome then some notice else none }
    | [] =>
        if watcher.closed then watching.replaced index { watcher with ended := true }
        else watching

/-- A watcher that has taken a notice takes the lock, goes one question on under it, or gives it
back at the end. -/
def carryOn (handling : Handling Answer α σ) (watching : Watching Answer α σ) (index : Nat)
    (watcher : Watcher) (notice : Notice) : Watching Answer α σ :=
  match watching.holder with
  | none =>
      match handling.program notice with
      | some program => { watching with holder := some (index, program) }
      | none => watching.replaced index { watcher with taken := none }
  | some (owner, program) =>
      if owner = index then
        match program with
        | .done result =>
            { watching.replaced index { watcher with taken := none } with
              holder := none
              finished := watching.finished ++ [(index, result)] }
        | .ask question next =>
            let (answer, state) := handling.handler question watching.state
            { watching with state := state, holder := some (index, next answer) }
      else watching

def advance (handling : Handling Answer α σ) (watching : Watching Answer α σ) (index : Nat) :
    Watching Answer α σ :=
  match watching.watchers[index]? with
  | none => watching
  | some watcher =>
      if watcher.ended then watching
      else
        match watcher.taken with
        | none => takeNext handling watching index watcher
        | some notice => carryOn handling watching index watcher notice

/-- Puts a notice on the queue of a watcher. While the queue is full the sender has to wait, so
nothing changes; a notice that nobody will take is dropped. -/
def send (watching : Watching Answer α σ) (index : Nat) (notice : Notice) : Watching Answer α σ :=
  match watching.watchers[index]? with
  | none => watching
  | some watcher =>
      if watcher.ended || watcher.closed || queueCapacity ≤ watcher.queue.length then watching
      else watching.replaced index { watcher with queue := watcher.queue ++ [notice] }

def close (watching : Watching Answer α σ) (index : Nat) : Watching Answer α σ :=
  match watching.watchers[index]? with
  | none => watching
  | some watcher => watching.replaced index { watcher with closed := true }

/-- A watcher that breaks down gives the lock back and ends. -/
def abandon (watching : Watching Answer α σ) (index : Nat) : Watching Answer α σ :=
  match watching.watchers[index]? with
  | none => watching
  | some watcher =>
      { watching.replaced index { watcher with taken := none, ended := true } with
        holder := watching.holder.filter (fun held => held.1 != index) }

def step (handling : Handling Answer α σ) (watching : Watching Answer α σ) :
    WatchStep σ → Watching Answer α σ
  | .watcher index => advance handling watching index
  | .send index notice => watching.send index notice
  | .close index => watching.close index
  | .abandon index => watching.abandon index
  | .shutdown => { watching with shutdown := true }
  | .outside change => { watching with state := change watching.state }

def run (handling : Handling Answer α σ) (watching : Watching Answer α σ)
    (schedule : List (WatchStep σ)) : Watching Answer α σ :=
  schedule.foldl (step handling) watching

/-- Whether a watcher waits for something from outside, or has ended. -/
def isResting (watching : Watching Answer α σ) (watcher : Watcher) : Bool :=
  watcher.ended ||
    (watcher.taken.isNone && watcher.queue.isEmpty && !watcher.closed && !watching.shutdown)

/-- Lets the watchers step one after the other, again and again, until all rest or the given number
of rounds is over. -/
def rounds (handling : Handling Answer α σ) (watching : Watching Answer α σ) :
    Nat → Watching Answer α σ
  | 0 => watching
  | count + 1 =>
      if watching.watchers.all (isResting watching) then watching
      else
        rounds handling
          ((List.range watching.watchers.length).foldl (advance handling) watching) count

end Watching

end Telemetry
