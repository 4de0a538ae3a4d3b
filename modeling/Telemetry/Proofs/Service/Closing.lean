import Telemetry.Proofs.Notice.Attendance
import Telemetry.Proofs.Reconcile.Completion
import Telemetry.Proofs.Reconcile.InitActs
import Telemetry.Proofs.Service.Calls

/-!
The end of a collector: watchers at work, the signal to stop, and calls that shut the collector
down. What passes have asked and when calls have begun is written down beside.
-/

namespace Telemetry.Reconciler

open Program (Leads)

variable {σ ρ τ : Type}

/-- A pass that has come to its end, with what it has asked and was answered. -/
structure EndedPass where
  watcher : Nat
  asked : List (Exchange PassQuestion.Answer)
  result : Option Report

structure Closing (σ ρ τ : Type) where
  service : Service σ ρ τ
  /-- What the watchers' pass under way has asked and was answered. -/
  asked : List (Exchange PassQuestion.Answer)
  /-- The passes of watchers that have ended. -/
  passes : List EndedPass
  /-- How many watchers there were when each call began. -/
  begun : List Nat
  /-- Whether only watchers have begun passes, each call has begun after all before it had returned,
  and none was dropped. -/
  orderly : Bool

inductive ClosingStep (σ ρ τ : Type) where
  /-- A watcher goes one step on. -/
  | watcher (index : Nat)
  /-- One more watcher begins. -/
  | spawn
  | send (index : Nat) (notice : Notice)
  | close (index : Nat)
  | breakDown (index : Nat) (detail : String)
  /-- Someone else has a notice handled, unless a watcher holds the lock. -/
  | pass (notice : Notice)
  | rewrite (change : σ → σ)
  /-- An initialisation goes on; see `Reconciler.initStep_eq_apply`. -/
  | init (act : InitAct ρ τ)
  /-- The signal to stop is given by someone else. -/
  | cancel
  /-- A call to shut down begins. -/
  | shutdown (timeoutMs : Nat)
  /-- A call goes one step on. -/
  | goOn (index : Nat) (late : Bool)
  | drop (index : Nat)

/-- Whether a step is one of the watchers. -/
def ClosingStep.isWatchers : ClosingStep σ ρ τ → Bool
  | .watcher _ => true
  | .spawn => true
  | .send _ _ => true
  | .close _ => true
  | .breakDown _ _ => true
  | _ => false

/-- Whether a step begins a watcher or is one of the calls. -/
def ClosingStep.isOfCalls : ClosingStep σ ρ τ → Bool
  | .spawn => true
  | .shutdown _ => true
  | .goOn _ _ => true
  | .drop _ => true
  | _ => false

namespace Closing

variable {closing after : Closing σ ρ τ} {index : Nat} {watcher : Watcher}

/-- Before any watcher and any call. -/
def start (declaration : Declaration) (state : Reconciler σ ρ τ) : Closing σ ρ τ :=
  ⟨⟨declaration, ⟨state, none, [], false, []⟩, [], [], [], []⟩, [], [], [], true⟩

def watched (closing : Closing σ ρ τ) : Watched σ ρ τ := closing.service.watched

def state (closing : Closing σ ρ τ) : Reconciler σ ρ τ := closing.watched.state

/-- Whether a watcher has broken down. -/
def Failed (closing : Closing σ ρ τ) (index : Nat) : Prop :=
  ∃ detail, (index, detail) ∈ closing.service.failures

def Ends (closing : Closing σ ρ τ) (index : Nat) : Prop :=
  ∀ watcher, closing.watched.watchers[index]? = some watcher → watcher.ended = true

theorem hasEnded_iff : closing.service.hasEnded index = true ↔ closing.Ends index :=
  Option.all_eq_true _ _

/-- The pass that ends when a watcher goes one step on, if one does. -/
def endingPass (closing : Closing σ ρ τ) (index : Nat) : List EndedPass :=
  match closing.watched.holder with
  | some (owner, .done result) => if owner = index then [⟨index, closing.asked, result⟩] else []
  | _ => []

/-- Whether a step leaves the beginning of passes to watchers, and calls to come one after the
other, each to its end. -/
def allows (closing : Closing σ ρ τ) : ClosingStep σ ρ τ → Bool
  | .pass _ => false
  | .shutdown _ => closing.service.calls.all (·.phase.hasReturned)
  | .drop _ => false
  | _ => true

variable [TargetSource σ] [TargetRegistry ρ τ]

def serve (service : Service σ ρ τ) : ClosingStep σ ρ τ → Service σ ρ τ
  | .watcher index => service.takeSteps [.watcher index]
  | .spawn => service.spawnWatcher
  | .send index notice => service.takeSteps [.send index notice]
  | .close index => service.takeSteps [.close index]
  | .breakDown index detail => service.breakDown index detail
  | .pass notice =>
      if service.watched.holder.isNone then (service.reconcile notice).2 else service
  | .rewrite change =>
      service.withReconciler (service.reconciler.withSource (change service.reconciler.source))
  | .init act => service.withReconciler (act.apply service.reconciler)
  | .cancel => service.cancel
  | .shutdown timeoutMs => service.beginShutdown timeoutMs
  | .goOn index late => service.advanceCall late index
  | .drop index => service.dropCall index

def step (closing : Closing σ ρ τ) (step : ClosingStep σ ρ τ) : Closing σ ρ τ where
  service := serve closing.service step
  asked :=
    match step with
    | .watcher index =>
        Program.notedBy handler closing.state closing.asked closing.watched.holder index
    | .breakDown _ _ =>
        if (serve closing.service step).watched.holder.isNone then [] else closing.asked
    | _ => closing.asked
  passes :=
    match step with
    | .watcher index => closing.passes ++ closing.endingPass index
    | _ => closing.passes
  begun :=
    match step with
    | .shutdown _ => closing.begun ++ [closing.watched.watchers.length]
    | _ => closing.begun
  orderly := closing.orderly && closing.allows step

def run (closing : Closing σ ρ τ) (steps : List (ClosingStep σ ρ τ)) : Closing σ ρ τ :=
  steps.foldl step closing

theorem run_append (closing : Closing σ ρ τ) (first second : List (ClosingStep σ ρ τ)) :
    closing.run (first ++ second) = (closing.run first).run second :=
  List.foldl_append

theorem orderly_of_step {step : ClosingStep σ ρ τ} (orderly : (closing.step step).orderly = true) :
    closing.orderly = true ∧ closing.allows step = true :=
  Bool.and_eq_true_iff.mp orderly

/-- What does not concern the watchers, the lock or a pass of a watcher. -/
structure Beside (closing after : Closing σ ρ τ) : Prop where
  watchers : after.watched.watchers = closing.watched.watchers
  holder : after.watched.holder = closing.watched.holder
  finished : after.watched.finished = closing.watched.finished
  shutdown : closing.watched.shutdown = true → after.watched.shutdown = true
  failures : after.service.failures = closing.service.failures
  asked : after.asked = closing.asked
  passes : after.passes = closing.passes

omit [TargetSource σ] [TargetRegistry ρ τ] in
theorem Beside.of_spares (spares : closing.service.Spares after.service)
    (asked : after.asked = closing.asked) (passes : after.passes = closing.passes) :
    closing.Beside after where
  watchers := spares.watchers
  holder := spares.holder
  finished := spares.finished
  shutdown := fun told => spares.shutdown.trans told
  failures := spares.failures
  asked := asked
  passes := passes

omit [TargetSource σ] [TargetRegistry ρ τ] in
theorem Beside.stays (beside : closing.Beside after) :
    Watching.Stays closing.watched after.watched :=
  .of_eq beside.watchers beside.shutdown

theorem beside_step (closing : Closing σ ρ τ) {step : ClosingStep σ ρ τ}
    (beside : step.isWatchers = false) : closing.Beside (closing.step step) := by
  cases step with
  | pass notice =>
      simp only [Closing.step, serve]
      split <;> exact ⟨rfl, rfl, rfl, id, rfl, rfl, rfl⟩
  | goOn index late =>
      exact .of_spares (closing.service.callAdvanced index late).spares rfl rfl
  | drop index => exact .of_spares (closing.service.spares_dropCall index) rfl rfl
  | rewrite change => exact ⟨rfl, rfl, rfl, id, rfl, rfl, rfl⟩
  | init act => exact ⟨rfl, rfl, rfl, id, rfl, rfl, rfl⟩
  | cancel => exact ⟨rfl, rfl, rfl, fun _ => rfl, rfl, rfl, rfl⟩
  | shutdown timeoutMs => exact ⟨rfl, rfl, rfl, fun _ => rfl, rfl, rfl, rfl⟩
  | _ => cases beside

/-- The watchers stay, unless one more begins. -/
theorem stays_step (closing : Closing σ ρ τ) (step : ClosingStep σ ρ τ) (other : step ≠ .spawn) :
    Watching.Stays closing.watched (closing.step step).watched := by
  cases step with
  | watcher index => exact Reconciler.stays_step closing.watched (.watcher index)
  | spawn => exact absurd rfl other
  | send index notice => exact Reconciler.stays_step closing.watched (.send index notice)
  | close index => exact Reconciler.stays_step closing.watched (.close index)
  | breakDown index detail =>
      change Watching.Stays _ (closing.service.breakDown index detail).watched
      unfold Service.breakDown
      split
      · exact Reconciler.stays_step closing.watched (.abandon index)
      · exact .of_eq rfl id
  | _ => exact (beside_step closing rfl).stays

theorem lasts_step (closing : Closing σ ρ τ) (step : ClosingStep σ ρ τ) :
    Watching.Lasts closing.watched (closing.step step).watched := by
  by_cases spawns : step = .spawn
  · rw [spawns]
    exact .joined closing.watched Watcher.start
  · exact (closing.stays_step step spawns).toLasts

/-- What is written down of passes is what they have asked, and all that have ended are complete. -/
structure Written (closing : Closing σ ρ τ) : Prop where
  attended : Attended closing.Failed closing.watched
  idle : closing.watched.holder = none → closing.asked = []
  held : ∀ owner program, closing.watched.holder = some (owner, program) →
    Leads Pass.program closing.asked program
  complete : ∀ pass ∈ closing.passes, Pass.Complete pass.asked pass.result
  listed : closing.passes.map (fun pass => (pass.watcher, pass.result)) = closing.watched.finished

/-- A watcher that breaks down takes the lock from nobody else, and ends no pass. -/
theorem step_breakDown (index : Nat) (detail : String) :
    let after := closing.step (.breakDown index detail)
    (∀ holding, after.watched.holder = some holding → closing.watched.holder = some holding) ∧
      after.watched.finished = closing.watched.finished := by
  change let after := closing.service.breakDown index detail
    (∀ holding, after.watched.holder = some holding → _) ∧ after.watched.finished = _
  unfold Service.breakDown
  split
  · change let after := closing.watched.abandon index
      (∀ holding, after.holder = some holding → _) ∧ after.finished = _
    unfold Watching.abandon
    split
    · exact ⟨fun _ => id, rfl⟩
    · exact ⟨fun _ held => (Option.filter_eq_some_iff.mp held).1, rfl⟩
  · exact ⟨fun _ => id, rfl⟩

section Watcher

variable {program : PassProgram (Option Report)} {result : Option Report}
  {question : PassQuestion} {next : question.Answer → PassProgram (Option Report)}

theorem step_done (attended : Attended closing.Failed closing.watched)
    (held : closing.watched.holder = some (index, .done result)) :
    let after := closing.step (.watcher index)
    after.asked = [] ∧ after.passes = closing.passes ++ [⟨index, closing.asked, result⟩] ∧
      after.watched.holder = none ∧
      after.watched.finished = closing.watched.finished ++ [(index, result)] := by
  obtain ⟨watcher, standing, advanced⟩ := attended.advance_of_held held
  have watched : (closing.step (.watcher index)).watched = _ := advanced
  refine ⟨?_, ?_, by rw [watched], by rw [watched]⟩
  · simp only [step, Program.notedBy, held, if_true]
  · simp only [step, endingPass, held, if_true]

theorem step_ask (attended : Attended closing.Failed closing.watched)
    (held : closing.watched.holder = some (index, .ask question next)) :
    let after := closing.step (.watcher index)
    after.asked = closing.asked ++ [⟨question, (handler question closing.state).1⟩] ∧
      after.passes = closing.passes ∧
      after.watched.holder = some (index, next (handler question closing.state).1) ∧
      after.watched.finished = closing.watched.finished := by
  obtain ⟨watcher, standing, advanced⟩ := attended.advance_of_held held
  have watched : (closing.step (.watcher index)).watched = _ := advanced
  refine ⟨?_, ?_, by rw [watched]; rfl, by rw [watched]⟩
  · simp only [step, Program.notedBy, held, if_true]
  · simp only [step, endingPass, held, List.append_nil]

theorem step_elsewhere (idle : closing.watched.holder = none → closing.asked = [])
    (notHeld : ∀ program, closing.watched.holder ≠ some (index, program)) :
    let after := closing.step (.watcher index)
    after.asked = closing.asked ∧ after.passes = closing.passes ∧
      after.watched.finished = closing.watched.finished ∧
      (after.watched.holder = closing.watched.holder ∨
        closing.watched.holder = none ∧ after.watched.holder = some (index, Pass.program)) := by
  obtain ⟨_, finished, holder⟩ := Attended.advance_of_not_held closing.watched notHeld
  refine ⟨?_, ?_, finished, holder⟩
  · change Program.notedBy handler closing.state closing.asked closing.watched.holder index = _
    cases free : closing.watched.holder with
    | none => exact (idle free).symm
    | some holding => exact if_neg fun own => notHeld holding.2 (by rw [free, ← own])
  · change closing.passes ++ closing.endingPass index = _
    have none : closing.endingPass index = [] := by
      unfold endingPass
      split
      · rename_i owner result held
        exact if_neg fun own => notHeld _ (own ▸ held)
      · rfl
    rw [none, List.append_nil]

end Watcher

namespace Written

omit [TargetSource σ] [TargetRegistry ρ τ] in
/-- What concerns watchers, and neither the lock nor a pass. -/
theorem attend (written : closing.Written) (attended : Attended after.Failed after.watched)
    (holder : after.watched.holder = closing.watched.holder)
    (finished : after.watched.finished = closing.watched.finished)
    (asked : after.asked = closing.asked) (passes : after.passes = closing.passes) :
    after.Written where
  attended := attended
  idle := by
    rw [holder, asked]
    exact written.idle
  held := by
    rw [holder, asked]
    exact written.held
  complete := by
    rw [passes]
    exact written.complete
  listed := by
    rw [passes, finished]
    exact written.listed

omit [TargetSource σ] [TargetRegistry ρ τ] in
theorem beside (written : closing.Written) (beside : closing.Beside after) : after.Written := by
  refine written.attend ?_ beside.holder beside.finished beside.asked beside.passes
  have failed : after.Failed = closing.Failed := by
    unfold Failed
    rw [beside.failures]
  rw [failed]
  exact written.attended.of_eq beside.watchers beside.holder beside.finished

theorem done (written : closing.Written) {result : Option Report}
    (held : closing.watched.holder = some (index, .done result)) :
    (closing.step (.watcher index)).Written := by
  obtain ⟨asked, passes, holder, finished⟩ := step_done written.attended held
  exact {
    attended := written.attended.advance index
    idle := fun _ => asked
    held := by
      intro owner left isHeld
      rw [holder] at isHeld
      cases isHeld
    complete := by
      intro pass member
      rw [passes] at member
      rcases List.mem_append.mp member with earlier | last
      · exact written.complete pass earlier
      · rw [List.mem_singleton.mp last]
        exact Pass.complete_of_leads (written.held index _ held)
    listed := by
      rw [passes, finished, List.map_append, written.listed]
      rfl }

theorem ask (written : closing.Written) {question : PassQuestion}
    {next : question.Answer → PassProgram (Option Report)}
    (held : closing.watched.holder = some (index, .ask question next)) :
    (closing.step (.watcher index)).Written := by
  obtain ⟨asked, passes, holder, finished⟩ := step_ask written.attended held
  exact {
    attended := written.attended.advance index
    idle := by
      intro free
      rw [holder] at free
      cases free
    held := by
      intro owner left isHeld
      rw [holder] at isHeld
      cases isHeld
      rw [asked]
      exact (written.held index _ held).answered _
    complete := by
      rw [passes]
      exact written.complete
    listed := by
      rw [passes, finished]
      exact written.listed }

theorem elsewhere (written : closing.Written)
    (notHeld : ∀ program, closing.watched.holder ≠ some (index, program)) :
    (closing.step (.watcher index)).Written := by
  obtain ⟨asked, passes, finished, holder⟩ := step_elsewhere written.idle notHeld
  exact {
    attended := written.attended.advance index
    idle := by
      intro free
      rw [asked]
      rcases holder with same | ⟨before, _⟩
      · exact written.idle (same.symm.trans free)
      · exact written.idle before
    held := by
      intro owner program held
      rw [asked]
      rcases holder with same | ⟨before, begun⟩
      · exact written.held owner program (same.symm.trans held)
      · cases begun.symm.trans held
        rw [written.idle before]
        exact .here _
    complete := by
      rw [passes]
      exact written.complete
    listed := by
      rw [passes, finished]
      exact written.listed }

theorem attended_breakDown (written : closing.Written) (index : Nat) (detail : String) :
    let after := closing.step (.breakDown index detail)
    Attended after.Failed after.watched := by
  intro after
  by_cases working :
      (closing.service.watched.watchers[index]?).any (fun watcher => !watcher.ended) = true
  · have broken : after.service = { closing.service.takeSteps [.abandon index] with
        failures := closing.service.failures ++ [(index, detail)] } := if_pos working
    have watched : after.watched = closing.watched.abandon index :=
      congrArg Service.watched broken
    rw [watched]
    refine written.attended.abandon index fun other => ?_
    have failures : after.service.failures = closing.service.failures ++ [(index, detail)] :=
      congrArg Service.failures broken
    simp [Failed, failures, exists_or, eq_comm]
  · have same : after.service = closing.service := if_neg working
    have failed : after.Failed = closing.Failed := by
      unfold Failed
      rw [same]
    have watched : after.watched = closing.watched := congrArg Service.watched same
    rw [failed, watched]
    exact written.attended

/-- What a watcher that breaks down has asked is not written down as a pass. -/
theorem breakDown (written : closing.Written) (index : Nat) (detail : String) :
    (closing.step (.breakDown index detail)).Written := by
  obtain ⟨kept, finished⟩ := closing.step_breakDown index detail
  exact {
    attended := written.attended_breakDown index detail
    idle := fun free => if_pos (Option.isNone_iff_eq_none.mpr free)
    held := by
      intro owner program held
      have asked : (closing.step (.breakDown index detail)).asked = closing.asked :=
        if_neg fun free => by
          have none := Option.isNone_iff_eq_none.mp free
          cases held.symm.trans none
      rw [asked]
      exact written.held owner program (kept _ held)
    complete := written.complete
    listed := written.listed.trans finished.symm }

theorem step (written : closing.Written) (step : ClosingStep σ ρ τ) :
    (closing.step step).Written := by
  cases step with
  | watcher index =>
      by_cases own : ∃ program, closing.watched.holder = some (index, program)
      · obtain ⟨program, held⟩ := own
        cases program with
        | done result => exact written.done held
        | ask question next => exact written.ask held
      · exact written.elsewhere fun program held => own ⟨program, held⟩
  | spawn => exact written.attend written.attended.joined rfl rfl rfl rfl
  | send index notice =>
      obtain ⟨watchers, sent⟩ := closing.watched.send_watchers index notice
      have watched : (closing.step (.send index notice)).watched = _ := sent
      exact written.attend (written.attended.send index notice) (by rw [watched]) (by rw [watched])
        rfl rfl
  | close index =>
      obtain ⟨watchers, closed⟩ := closing.watched.close_watchers index
      have watched : (closing.step (.close index)).watched = _ := closed
      exact written.attend (written.attended.close index) (by rw [watched]) (by rw [watched])
        rfl rfl
  | breakDown index detail => exact written.breakDown index detail
  | _ => exact written.beside (beside_step closing rfl)

theorem run (written : closing.Written) (steps : List (ClosingStep σ ρ τ)) :
    (closing.run steps).Written := by
  induction steps generalizing closing with
  | nil => exact written
  | cons first rest ih => exact ih (written.step first)

omit [TargetSource σ] [TargetRegistry ρ τ] in
/-- A watcher that has ended has no pass under way, and has seen all through that it has begun,
unless it has broken down. -/
theorem through (written : closing.Written) {watcher : Watcher}
    (standing : closing.watched.watchers[index]? = some watcher) (ended : watcher.ended = true) :
    watcher.taken = none ∧ (∀ program, closing.watched.holder ≠ some (index, program)) ∧
      (¬ closing.Failed index → (closing.passes.filter (·.watcher == index)).length =
        (watcher.handed.filter (·.kind.triggersPass)).length) := by
  have tends := written.attended.each index watcher standing
  have idle := tends.idle ended
  refine ⟨idle, written.attended.not_held_of_idle standing idle, fun sound => ?_⟩
  have counted := tends.seenThrough sound
  rw [idle, passesOf, ← written.listed, List.filter_map, List.length_map] at counted
  exact counted

end Written

end Closing

end Telemetry.Reconciler
