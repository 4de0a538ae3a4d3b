import Telemetry.Proofs.Reconcile.Serial

/-!
A journal of watchers at work: which notices their queues have taken, how often the source was
rewritten, and when it was read. The journal is kept beside the watchers and decides nothing.
-/

namespace Telemetry

/-- Whether a notice that is sent to the watcher is taken onto its queue. -/
def Watcher.hasRoom (watcher : Watcher) : Bool :=
  !(watcher.ended || watcher.closed || decide (queueCapacity ≤ watcher.queue.length))

theorem Watcher.working_of_hasRoom {watcher : Watcher} (room : watcher.hasRoom = true) :
    watcher.ended = false := by
  unfold hasRoom at room
  cases ended : watcher.ended with
  | false => rfl
  | true => simp [ended] at room

theorem Watching.send_eq {Question : Type} {Answer : Question → Type} {α σ : Type}
    (watching : Watching Answer α σ) (index : Nat) (notice : Notice) :
    watching.send index notice =
      match watching.watchers[index]? with
      | none => watching
      | some watcher =>
          if watcher.hasRoom then
            watching.replaced index { watcher with queue := watcher.queue ++ [notice] }
          else watching := by
  unfold send
  cases watching.watchers[index]? with
  | none => rfl
  | some watcher =>
      by_cases full : (watcher.ended || watcher.closed ||
          decide (queueCapacity ≤ watcher.queue.length)) = true
      · simp only [Watcher.hasRoom, full, if_true, Bool.not_true, Bool.false_eq_true, if_false]
      · simp only [Watcher.hasRoom, full, Bool.not_false, if_true, Bool.false_eq_true, if_false]

theorem Watching.of_getElem?_replaced {Question : Type} {Answer : Question → Type} {α σ : Type}
    {watching : Watching Answer α σ} {index other : Nat} {watcher changed : Watcher}
    (standing : (watching.replaced index changed).watchers[other]? = some watcher) :
    (other = index ∧ watcher = changed) ∨
      (other ≠ index ∧ watching.watchers[other]? = some watcher) := by
  have changedAt : (watching.watchers.set index changed)[other]? = some watcher := standing
  by_cases same : index = other
  · subst same
    rw [List.getElem?_set_self'] at changedAt
    obtain ⟨_, _, rfl⟩ := Option.map_eq_some_iff.mp changedAt
    exact .inl ⟨rfl, rfl⟩
  · rw [List.getElem?_set_ne same] at changedAt
    exact .inr ⟨Ne.symm same, changedAt⟩

namespace Reconciler

variable {σ ρ τ : Type}

/-- A notice that a queue has taken. -/
structure Sending where
  watcher : Nat
  notice : Notice
  /-- How often the source had been rewritten by then. -/
  rewritings : Nat
deriving DecidableEq

/-- A reading of the source. -/
structure Reading (σ : Type) where
  source : σ
  /-- How often the source had been rewritten by then. -/
  rewritings : Nat

structure Journal (σ ρ τ : Type) where
  watched : Watched σ ρ τ
  sent : List Sending
  rewritings : Nat
  readings : List (Reading σ)

inductive JournalStep (σ ρ τ : Type) where
  | watcher (index : Nat)
  | rewrite (change : σ → σ)
  | send (index : Nat) (notice : Notice)
  | close (index : Nat)
  | shutdown
  /-- Something else changes, such as an initialisation that goes on. -/
  | beside (change : Reconciler σ ρ τ → Reconciler σ ρ τ)

def JournalStep.watchStep : JournalStep σ ρ τ → WatchStep (Reconciler σ ρ τ)
  | .watcher index => .watcher index
  | .rewrite change => .outside fun state => state.withSource (change state.source)
  | .send index notice => .send index notice
  | .close index => .close index
  | .shutdown => .shutdown
  | .beside change => .outside change

namespace Journal

def begin (watched : Watched σ ρ τ) : Journal σ ρ τ := ⟨watched, [], 0, []⟩

/-- Watchers that have not begun, over a state. -/
def start (state : Reconciler σ ρ τ) (count : Nat) : Journal σ ρ τ :=
  begin ⟨state, none, List.replicate count Watcher.start, false, []⟩

/-- The notices that the queue of a watcher has taken, first one first. -/
def sentTo (journal : Journal σ ρ τ) (index : Nat) : List Notice :=
  (journal.sent.filter (·.watcher == index)).map (·.notice)

/-- The number of passes that a watcher has seen through. -/
def passesOf (journal : Journal σ ρ τ) (index : Nat) : Nat :=
  (journal.watched.finished.filter (·.1 == index)).length

/-- The source, if the watcher reads it when it goes on. -/
def readBy (journal : Journal σ ρ τ) (index : Nat) : List σ :=
  match journal.watched.watchers[index]?, journal.watched.holder with
  | some ⟨_, _, some _, _, false⟩, some (owner, program) =>
      if owner = index then reading program journal.watched.state else []
  | _, _ => []

def accepts (journal : Journal σ ρ τ) (index : Nat) : Bool :=
  (journal.watched.watchers[index]?).any Watcher.hasRoom

def set (journal : Journal σ ρ τ) (index : Nat) (watcher : Watcher) : Journal σ ρ τ :=
  { journal with watched := journal.watched.replaced index watcher }

variable [TargetSource σ] [TargetRegistry ρ τ]

def step (journal : Journal σ ρ τ) (step : JournalStep σ ρ τ) : Journal σ ρ τ :=
  let watched := journal.watched.step handling step.watchStep
  match step with
  | .watcher index =>
      { journal with
        watched := watched
        readings := journal.readings ++
          (journal.readBy index).map (⟨·, journal.rewritings⟩) }
  | .rewrite _ => { journal with watched := watched, rewritings := journal.rewritings + 1 }
  | .send index notice =>
      if journal.accepts index then
        { journal with
          watched := watched
          sent := journal.sent ++ [⟨index, notice, journal.rewritings⟩] }
      else { journal with watched := watched }
  | _ => { journal with watched := watched }

def run (journal : Journal σ ρ τ) (steps : List (JournalStep σ ρ τ)) : Journal σ ρ τ :=
  steps.foldl step journal

/-- Keeping a journal changes nothing of what happens. -/
theorem run_watched (journal : Journal σ ρ τ) (steps : List (JournalStep σ ρ τ)) :
    (journal.run steps).watched =
      journal.watched.run handling (steps.map JournalStep.watchStep) := by
  induction steps generalizing journal with
  | nil => rfl
  | cons first rest ih =>
      have stepped : (journal.step first).watched =
          journal.watched.step handling first.watchStep := by
        cases first with
        | send index notice =>
            simp only [step]
            split <;> rfl
        | _ => rfl
      exact (ih _).trans (congrArg (Watching.run handling · _) stepped)

/-- A notice that is accepted goes onto the queue and into the journal. -/
theorem step_send {journal : Journal σ ρ τ} {index : Nat}
    (accepted : journal.accepts index = true) (notice : Notice) :
    ∃ watcher, journal.watched.watchers[index]? = some watcher ∧ watcher.ended = false ∧
      journal.step (.send index notice) =
        { journal.set index { watcher with queue := watcher.queue ++ [notice] } with
          sent := journal.sent ++ [⟨index, notice, journal.rewritings⟩] } := by
  obtain ⟨watcher, standing, room⟩ := (Option.any_eq_true _ _).mp accepted
  refine ⟨watcher, standing, Watcher.working_of_hasRoom room, ?_⟩
  simp only [step, accepted, if_true, JournalStep.watchStep, Watching.step, Watching.send_eq,
    standing, room]
  rfl

theorem step_send_refused {journal : Journal σ ρ τ} {index : Nat}
    (refused : journal.accepts index = false) (notice : Notice) :
    journal.step (.send index notice) = journal := by
  have unsent : journal.watched.send index notice = journal.watched := by
    rw [Watching.send_eq]
    cases standing : journal.watched.watchers[index]? with
    | none => rfl
    | some watcher =>
        have full := (Option.any_eq_false _ _).mp refused watcher standing
        simp only [full, Bool.false_eq_true, if_false]
  simp only [step, refused, Bool.false_eq_true, if_false, JournalStep.watchStep, Watching.step,
    unsent]

/-- What a watcher can do in one step. -/
inductive Advanced (journal : Journal σ ρ τ) (index : Nat) : Journal σ ρ τ → Prop where
  | rest : Advanced journal index journal
  | leave {watcher : Watcher} (standing : journal.watched.watchers[index]? = some watcher)
      (idle : watcher.taken = none)
      (through : journal.watched.shutdown = true ∨ watcher.queue = [] ∧ watcher.closed = true) :
      Advanced journal index (journal.set index { watcher with ended := true })
  | take {watcher : Watcher} {notice : Notice} {queue : List Notice}
      (standing : journal.watched.watchers[index]? = some watcher)
      (working : watcher.ended = false) (idle : watcher.taken = none)
      (queued : watcher.queue = notice :: queue) (running : journal.watched.shutdown = false) :
      Advanced journal index (journal.set index { watcher with
        queue := queue
        handed := watcher.handed ++ [notice]
        taken := if notice.kind.triggersPass then some notice else none })
  | skip {watcher : Watcher} {notice : Notice}
      (standing : journal.watched.watchers[index]? = some watcher)
      (busy : watcher.taken = some notice) (idle : notice.kind.triggersPass = false) :
      Advanced journal index (journal.set index { watcher with taken := none })
  | lock {watcher : Watcher} {notice : Notice}
      (standing : journal.watched.watchers[index]? = some watcher)
      (working : watcher.ended = false) (busy : watcher.taken = some notice)
      (free : journal.watched.holder = none) :
      Advanced journal index { journal with
        watched := { journal.watched with holder := some (index, Pass.program) } }
  | finish {watcher : Watcher} {notice : Notice} {result : Option Report}
      (standing : journal.watched.watchers[index]? = some watcher)
      (busy : watcher.taken = some notice)
      (held : journal.watched.holder = some (index, .done result)) :
      Advanced journal index { journal with
        watched := { journal.watched.replaced index { watcher with taken := none } with
          holder := none
          finished := journal.watched.finished ++ [(index, result)] } }
  | read {next : Except Error TargetSet → PassProgram (Option Report)}
      (held : journal.watched.holder = some (index, .ask .declared next)) :
      Advanced journal index { journal with
        watched := { journal.watched with
          state := (handler .declared journal.watched.state).2
          holder := some (index, next (handler .declared journal.watched.state).1) }
        readings := journal.readings ++ [⟨journal.watched.state.source, journal.rewritings⟩] }
  | ask {question : PassQuestion} {next : question.Answer → PassProgram (Option Report)}
      (settled : Pass.IsSettled question)
      (held : journal.watched.holder = some (index, .ask question next)) :
      Advanced journal index { journal with
        watched := { journal.watched with
          state := (handler question journal.watched.state).2
          holder := some (index, next (handler question journal.watched.state).1) } }

theorem passFor_isSome (notice : Notice) :
    (passFor notice).isSome = notice.kind.triggersPass := by
  unfold passFor
  cases notice.kind.triggersPass <;> rfl

theorem passFor_eq_some {notice : Notice} {program : PassProgram (Option Report)}
    (calls : passFor notice = some program) : program = Pass.program := by
  unfold passFor at calls
  split at calls <;> cases calls
  rfl

theorem advanced (journal : Journal σ ρ τ) (index : Nat) :
    journal.Advanced index (journal.step (.watcher index)) := by
  simp only [step, JournalStep.watchStep, Watching.step, Watching.advance]
  cases standing : journal.watched.watchers[index]? with
  | none =>
      simp only [readBy, standing, List.map_nil, List.append_nil]
      exact .rest
  | some watcher =>
      obtain ⟨queue, closed, taken, handed, ended⟩ := watcher
      cases ended with
      | true =>
          simp only [readBy, standing, List.map_nil, List.append_nil, if_true]
          exact .rest
      | false =>
          cases taken with
          | none =>
              simp only [readBy, standing, List.map_nil, List.append_nil, Bool.false_eq_true,
                if_false, Watching.takeNext]
              cases through : journal.watched.shutdown with
              | true => exact .leave standing rfl (.inl through)
              | false =>
                  cases queue with
                  | cons notice queue =>
                      have taking : journal.Advanced index _ := .take standing rfl rfl rfl through
                      rw [← passFor_isSome] at taking
                      exact taking
                  | nil =>
                      cases closed with
                      | true => exact .leave standing rfl (.inr ⟨rfl, rfl⟩)
                      | false => exact .rest
          | some notice =>
              cases held : journal.watched.holder with
              | none =>
                  simp only [readBy, standing, held, List.map_nil, List.append_nil,
                    Bool.false_eq_true, if_false, Watching.carryOn, handling]
                  cases calls : passFor notice with
                  | some program =>
                      rw [passFor_eq_some calls]
                      exact .lock standing rfl rfl held
                  | none =>
                      have idle : notice.kind.triggersPass = false := by
                        rw [← passFor_isSome, calls]
                        rfl
                      exact .skip standing rfl idle
              | some holding =>
                  obtain ⟨owner, program⟩ := holding
                  simp only [readBy, standing, held, Bool.false_eq_true, if_false,
                    Watching.carryOn]
                  by_cases own : owner = index
                  · subst own
                    simp only [if_true]
                    cases program with
                    | done result =>
                        simp only [reading, List.map_nil, List.append_nil]
                        exact .finish standing rfl held
                    | ask question next =>
                        cases question with
                        | declared => exact .read held
                        | _ =>
                            simp only [reading, List.map_nil, List.append_nil]
                            exact .ask (fun same => by cases same) held
                  · simp only [if_neg own, List.map_nil, List.append_nil]
                    exact .rest

/-- What a watcher does in one step is told by the journal that begins with it. -/
theorem exists_advanced (watched : Watched σ ρ τ) (index : Nat) :
    ∃ after : Journal σ ρ τ, (begin watched).Advanced index after ∧
      after.watched = watched.advance handling index :=
  ⟨_, (begin watched).advanced index, rfl⟩

end Journal

end Reconciler

end Telemetry
