import Telemetry.Proofs.Service.Closing

/-!
Who waits for whom. A watcher that has not ended is one that nobody has taken yet or one that a call
has yet to wait for; so once a call that came in its turn has waited, all watchers have ended that
were there when it began, and those that came later have nothing to do.
-/

namespace Telemetry.Reconciler.Closing

variable {σ ρ τ : Type} {closing after : Closing σ ρ τ} {index : Nat}

/-- Calls that came one after the other. -/
structure InTurn (closing : Closing σ ρ τ) : Prop where
  returned : ∀ index phase, closing.service.phase? index = some phase →
    index + 1 < closing.service.calls.length → phase.hasReturned = true
  kept : ∀ index tasks, closing.service.phase? index ≠ some (.dropped tasks)
  waited : ∀ index phase count, closing.service.phase? index = some phase →
    closing.begun[index]? = some count → phase.hasWaited → ∀ task < count, closing.Ends task

/-- Whether a call has yet to wait for a watcher. -/
def Awaits (closing : Closing σ ρ τ) (task : Nat) : Prop :=
  ∃ index phase, closing.service.phase? index = some phase ∧ task ∈ phase.left

structure Covered (closing : Closing σ ρ τ) : Prop where
  counted : closing.begun.length = closing.service.calls.length
  told : closing.service.calls ≠ [] → closing.watched.shutdown = true
  within : ∀ count ∈ closing.begun, count ≤ closing.watched.watchers.length
  present : ∀ task, task ∈ closing.service.tasks ∨ closing.Awaits task →
    task < closing.watched.watchers.length
  /-- Whoever has not ended is waited for, or will be by the next call. -/
  known : ∀ task, closing.Ends task ∨ task ∈ closing.service.tasks ∨ closing.Awaits task
  /-- A call that has taken watchers has left none that was there when it began. -/
  taken : ∀ index phase count, closing.service.phase? index = some phase →
    closing.begun[index]? = some count → phase.hasTaken →
      ∀ task ∈ closing.service.tasks, count ≤ task
  /-- A watcher that has come after a call has never been handed anything. -/
  spared : ∀ count ∈ closing.begun, ∀ (task : Nat) (watcher : Watcher), count ≤ task →
    closing.watched.watchers[task]? = some watcher → watcher.taken = none ∧ watcher.handed = []
  closed : ∀ index, closing.service.phase? index = some .draining →
    closing.state.tracker.closed = true
  inTurn : closing.orderly = true → closing.InTurn

theorem Ends.lasts (ends : closing.Ends index)
    (inside : index < closing.watched.watchers.length)
    (lasts : Watching.Lasts closing.watched after.watched) : after.Ends index := by
  intro later standing
  obtain ⟨same, stands, ended, _⟩ :=
    lasts.watchers index _ (List.getElem?_eq_getElem inside)
  cases standing.symm.trans stands
  exact ended (ends _ (List.getElem?_eq_getElem inside))

/-- What does not concern the calls and lets no watcher in. -/
structure Quiet (closing after : Closing σ ρ τ) : Prop where
  stays : Watching.Stays closing.watched after.watched
  tasks : after.service.tasks = closing.service.tasks
  calls : after.service.calls = closing.service.calls
  begun : after.begun = closing.begun
  closed : closing.state.tracker.closed = true → after.state.tracker.closed = true
  orderly : after.orderly = true → closing.orderly = true

namespace Quiet

theorem ends (quiet : closing.Quiet after) (ends : closing.Ends index) : after.Ends index := by
  by_cases inside : index < closing.watched.watchers.length
  · exact ends.lasts inside quiet.stays.toLasts
  · intro watcher standing
    obtain ⟨within, _⟩ := List.getElem?_eq_some_iff.mp standing
    exact absurd (quiet.stays.size ▸ within) inside

theorem phase? (quiet : closing.Quiet after) : after.service.phase? = closing.service.phase? := by
  unfold Service.phase?
  rw [quiet.calls]

theorem awaits_iff (quiet : closing.Quiet after) (task : Nat) :
    after.Awaits task ↔ closing.Awaits task := by
  unfold Awaits
  rw [quiet.phase?]

end Quiet

namespace Covered

theorem told_of_begun (covered : closing.Covered) {count : Nat} (begun : count ∈ closing.begun) :
    closing.watched.shutdown = true := by
  refine covered.told fun none => ?_
  have empty : closing.begun = [] := by
    rw [← List.length_eq_zero_iff, covered.counted, none]
    rfl
  rw [empty] at begun
  cases begun

theorem quiet (covered : closing.Covered) (quiet : closing.Quiet after) : after.Covered where
  counted := by
    rw [quiet.calls, quiet.begun]
    exact covered.counted
  told := by
    rw [quiet.calls]
    exact fun called => quiet.stays.toLasts.shutdown (covered.told called)
  within := by
    rw [quiet.begun, quiet.stays.size]
    exact covered.within
  present := by
    intro task
    rw [quiet.tasks, quiet.awaits_iff, quiet.stays.size]
    exact covered.present task
  known := by
    intro task
    rw [quiet.tasks, quiet.awaits_iff]
    exact (covered.known task).imp_left quiet.ends
  taken := by
    rw [quiet.tasks, quiet.phase?, quiet.begun]
    exact covered.taken
  spared := by
    rw [quiet.begun]
    intro count begun task watcher late standing
    obtain ⟨earlier, standingBefore, kept⟩ := quiet.stays.stood standing
    obtain ⟨handed, idle⟩ := kept (covered.told_of_begun begun)
    obtain ⟨free, nothing⟩ := covered.spared count begun task earlier late standingBefore
    exact ⟨idle free, handed.trans nothing⟩
  closed := by
    rw [quiet.phase?]
    exact fun index stands => quiet.closed (covered.closed index stands)
  inTurn := by
    intro orderly
    have inTurn := covered.inTurn (quiet.orderly orderly)
    refine ⟨?_, ?_, ?_⟩
    · rw [quiet.phase?, quiet.calls]
      exact inTurn.returned
    · rw [quiet.phase?]
      exact inTurn.kept
    · rw [quiet.phase?, quiet.begun]
      exact fun index phase count stands begun waited task before =>
        quiet.ends (inTurn.waited index phase count stands begun waited task before)

end Covered

/-- When all calls have returned, all watchers have ended that were there when one of them began. -/
theorem Covered.all_ended (covered : closing.Covered)
    (returned : ∀ call ∈ closing.service.calls, call.phase.hasReturned = true) {count : Nat}
    (begun : count ∈ closing.begun) {task : Nat} (before : task < count) : closing.Ends task := by
  have waits {index : Nat} {phase : ShutdownPhase}
      (stands : closing.service.phase? index = some phase) : phase.hasWaited := by
    obtain ⟨call, standing, rfl⟩ := Option.map_eq_some_iff.mp stands
    exact ShutdownPhase.hasWaited_of_hasReturned (returned call (List.mem_of_getElem? standing))
  rcases covered.known task with ends | waiting | ⟨index, phase, stands, member⟩
  · exact ends
  · obtain ⟨index, inside, rfl⟩ := List.getElem_of_mem begun
    obtain ⟨phase, stands⟩ : ∃ phase, closing.service.phase? index = some phase := by
      have called := List.getElem?_eq_getElem (covered.counted ▸ inside)
      exact ⟨_, Option.map_eq_some_iff.mpr ⟨_, called, rfl⟩⟩
    have late := covered.taken index phase _ stands (List.getElem?_eq_getElem inside)
      (ShutdownPhase.hasTaken_of_hasWaited (waits stands)) task waiting
    exact absurd before (Nat.not_lt.mpr late)
  · rw [ShutdownPhase.left_of_hasWaited (waits stands)] at member
    cases member

/-- A call comes from one phase to another. -/
structure Reaches (closing after : Closing σ ρ τ) (index : Nat) (before phase : ShutdownPhase) :
    Prop where
  stands : closing.service.phase? index = some before
  phases : ∀ other, after.service.phase? other =
    if index = other then some phase else closing.service.phase? other
  length : after.service.calls.length = closing.service.calls.length
  begun : after.begun = closing.begun
  spares : closing.service.Spares after.service

/-- The call forgets nobody that it has yet to wait for. -/
structure Moves (closing after : Closing σ ρ τ) (index : Nat) (before phase : ShutdownPhase) :
    Prop extends Reaches closing after index before phase where
  fewer : ∀ task, task ∈ after.service.tasks → task ∈ closing.service.tasks
  left : ∀ task, task ∈ phase.left → task ∈ closing.service.tasks ∨ task ∈ before.left
  known : ∀ task, task ∈ closing.service.tasks ∨ task ∈ before.left →
    closing.Ends task ∨ task ∈ after.service.tasks ∨ task ∈ phase.left
  taken : phase.hasTaken → before.hasTaken ∨ after.service.tasks = []
  closed : phase = .draining → after.state.tracker.closed = true
  waited : phase.hasWaited → before.hasWaited ∨ before = .awaiting []
  returned : before.hasReturned = true → phase.hasReturned = true
  orderly : after.orderly = true → closing.orderly = true ∧ ∀ tasks, phase ≠ .dropped tasks

namespace Moves

variable {before phase : ShutdownPhase}

theorem watchers (moves : closing.Moves after index before phase) :
    after.watched.watchers = closing.watched.watchers := moves.spares.watchers

theorem ends_iff (moves : closing.Moves after index before phase) (task : Nat) :
    after.Ends task ↔ closing.Ends task := by
  unfold Ends
  rw [moves.watchers]

theorem cases_of_phase? (moves : closing.Moves after index before phase) {other : Nat}
    {found : ShutdownPhase} (stands : after.service.phase? other = some found) :
    (index = other ∧ phase = found) ∨
      (index ≠ other ∧ closing.service.phase? other = some found) := by
  rw [moves.phases] at stands
  by_cases own : index = other
  · rw [if_pos own] at stands
    cases stands
    exact .inl ⟨own, rfl⟩
  · rw [if_neg own] at stands
    exact .inr ⟨own, stands⟩

theorem awaits (moves : closing.Moves after index before phase) {task : Nat}
    (awaits : after.Awaits task) : task ∈ closing.service.tasks ∨ closing.Awaits task := by
  obtain ⟨other, found, stands, member⟩ := awaits
  rcases moves.cases_of_phase? stands with ⟨_, rfl⟩ | ⟨_, elsewhere⟩
  · exact (moves.left task member).imp_right fun member => ⟨index, before, moves.stands, member⟩
  · exact .inr ⟨other, found, elsewhere, member⟩

theorem known_of (moves : closing.Moves after index before phase) {task : Nat}
    (known : closing.Ends task ∨ task ∈ closing.service.tasks ∨ closing.Awaits task) :
    closing.Ends task ∨ task ∈ after.service.tasks ∨ after.Awaits task := by
  have own : after.service.phase? index = some phase := by
    rw [moves.phases, if_pos rfl]
  have there {rest : Prop} (found : rest ∨ task ∈ after.service.tasks ∨ task ∈ phase.left) :
      rest ∨ task ∈ after.service.tasks ∨ after.Awaits task :=
    found.imp_right (Or.imp_right fun member => ⟨index, phase, own, member⟩)
  rcases known with ends | waiting | ⟨other, found, stands, member⟩
  · exact .inl ends
  · exact there (moves.known task (.inl waiting))
  · by_cases same : index = other
    · subst same
      cases moves.stands.symm.trans stands
      exact there (moves.known task (.inr member))
    · refine .inr (.inr ⟨other, found, ?_, member⟩)
      rw [moves.phases, if_neg same]
      exact stands

/-- A call that has waited for all that it has taken, while all before it have returned, has waited
for all that were there when it began. -/
theorem all_ended (covered : closing.Covered) (inTurn : closing.InTurn) {count : Nat}
    (stands : closing.service.phase? index = some (.awaiting []))
    (begun : closing.begun[index]? = some count) {task : Nat} (before : task < count) :
    closing.Ends task := by
  rcases covered.known task with ends | waiting | ⟨other, phase, standsThere, member⟩
  · exact ends
  · have late := covered.taken index _ count stands begun trivial task waiting
    exact absurd before (Nat.not_lt.mpr late)
  · exfalso
    have inside := Service.lt_of_phase? stands
    have insideThere := Service.lt_of_phase? standsThere
    have notReturned : ¬ index + 1 < closing.service.calls.length := fun further => by
      cases inTurn.returned index _ stands further
    by_cases own : index = other
    · subst own
      cases stands.symm.trans standsThere
      cases member
    · -- Every call but the last has returned, and waits for nobody.
      have returned := inTurn.returned other phase standsThere (by omega)
      rw [ShutdownPhase.left_of_hasWaited (ShutdownPhase.hasWaited_of_hasReturned returned)] at member
      cases member

theorem inTurn (moves : closing.Moves after index before phase) (covered : closing.Covered)
    (orderly : after.orderly = true) : after.InTurn where
  returned := by
    intro other found stands further
    rw [moves.length] at further
    have inTurn := covered.inTurn (moves.orderly orderly).1
    rcases moves.cases_of_phase? stands with ⟨rfl, rfl⟩ | ⟨_, elsewhere⟩
    · exact moves.returned (inTurn.returned index before moves.stands further)
    · exact inTurn.returned other found elsewhere further
  kept := by
    intro other tasks stands
    rcases moves.cases_of_phase? stands with ⟨rfl, same⟩ | ⟨_, elsewhere⟩
    · exact (moves.orderly orderly).2 tasks same
    · exact (covered.inTurn (moves.orderly orderly).1).kept other tasks elsewhere
  waited := by
    intro other found count stands begun waited task earlier
    rw [moves.ends_iff]
    rw [moves.begun] at begun
    have inTurn := covered.inTurn (moves.orderly orderly).1
    rcases moves.cases_of_phase? stands with ⟨rfl, rfl⟩ | ⟨_, elsewhere⟩
    · rcases moves.waited waited with already | last
      · exact inTurn.waited index before count moves.stands begun already task earlier
      · exact all_ended covered inTurn (last ▸ moves.stands) begun earlier
    · exact inTurn.waited other found count elsewhere begun waited task earlier

theorem covered (moves : closing.Moves after index before phase) (covered : closing.Covered) :
    after.Covered where
  counted := by
    rw [moves.begun, moves.length]
    exact covered.counted
  told := by
    intro called
    refine moves.spares.shutdown.trans (covered.told fun none => called ?_)
    rw [← List.length_eq_zero_iff, moves.length, none]
    rfl
  within := by
    rw [moves.begun, moves.watchers]
    exact covered.within
  present := by
    intro task listed
    rw [moves.watchers]
    refine covered.present task ?_
    rcases listed with waiting | awaits
    · exact .inl (moves.fewer task waiting)
    · exact moves.awaits awaits
  known := by
    intro task
    rw [moves.ends_iff]
    exact moves.known_of (covered.known task)
  taken := by
    intro other found count stands begun hasTaken task waiting
    rw [moves.begun] at begun
    have waitingBefore := moves.fewer task waiting
    rcases moves.cases_of_phase? stands with ⟨rfl, rfl⟩ | ⟨_, elsewhere⟩
    · rcases moves.taken hasTaken with already | none
      · exact covered.taken index before count moves.stands begun already task waitingBefore
      · rw [none] at waiting
        cases waiting
    · exact covered.taken other found count elsewhere begun hasTaken task waitingBefore
  spared := by
    rw [moves.begun, moves.watchers]
    exact covered.spared
  closed := by
    intro other stands
    rcases moves.cases_of_phase? stands with ⟨_, same⟩ | ⟨_, elsewhere⟩
    · exact moves.closed same
    · exact moves.spares.closed (covered.closed other elsewhere)
  inTurn := moves.inTurn covered

end Moves

/-- The same with another service. -/
def serving (closing : Closing σ ρ τ) (service : Service σ ρ τ) : Closing σ ρ τ :=
  { closing with service := service }

section Reaching

variable {before phase : ShutdownPhase} {middle : Service σ ρ τ}

theorem reaches (stands : closing.service.phase? index = some before)
    (spares : closing.service.Spares (middle.reach index phase))
    (calls : middle.calls = closing.service.calls) :
    closing.Reaches (closing.serving (middle.reach index phase)) index before phase where
  stands := stands
  phases := by
    intro other
    have same : middle.phase? = closing.service.phase? := by
      unfold Service.phase?
      rw [calls]
    change (middle.reach index phase).phase? other = _
    rw [Service.phase?_reach, same]
    by_cases own : index = other
    · subst own
      rw [if_pos rfl, if_pos rfl, stands]
      rfl
    · rw [if_neg own, if_neg own]
  length := (List.length_modify _ _ _).trans (congrArg List.length calls)
  begun := rfl
  spares := spares

/-- A call that has waited for all watchers it has taken goes on. -/
theorem Covered.onward (covered : closing.Covered)
    (stands : closing.service.phase? index = some before)
    (calls : middle.calls = closing.service.calls) (tasks : middle.tasks = closing.service.tasks)
    (spares : closing.service.Spares (middle.reach index phase))
    (through : before.hasWaited ∨ before = .awaiting []) (unreturned : before.hasReturned = false)
    (waited : phase.hasWaited)
    (closed : phase = .draining → middle.reconciler.tracker.closed = true) :
    (closing.serving (middle.reach index phase)).Covered := by
  have nobody : before.left = [] := by
    rcases through with already | rfl
    · exact ShutdownPhase.left_of_hasWaited already
    · rfl
  have hasTaken : before.hasTaken := by
    rcases through with already | rfl
    · exact ShutdownPhase.hasTaken_of_hasWaited already
    · trivial
  have sameTasks : (closing.serving (middle.reach index phase)).service.tasks =
      closing.service.tasks := tasks
  exact Moves.covered {
    reaches stands spares calls with
    fewer := by
      rw [sameTasks]
      exact fun _ => id
    left := by
      rw [ShutdownPhase.left_of_hasWaited waited]
      nofun
    known := by
      rw [sameTasks, nobody]
      exact fun task known => .inr (.inl (known.resolve_right nofun))
    taken := fun _ => .inl hasTaken
    closed := closed
    waited := fun _ => through
    returned := fun returned => by
      rw [unreturned] at returned
      cases returned
    orderly := fun orderly => ⟨orderly, fun tasks same => by
      rw [same] at waited
      cases waited⟩ } covered

end Reaching

section Steps

variable [TargetSource σ] [TargetRegistry ρ τ]

theorem orderly_step {step : ClosingStep σ ρ τ} (orderly : (closing.step step).orderly = true) :
    closing.orderly = true := (orderly_of_step orderly).1

theorem closed_handler (question : PassQuestion) (state : Reconciler σ ρ τ) :
    (handler question state).2.tracker.closed = state.tracker.closed := by
  cases question <;> rfl

theorem closed_run {α : Type} (program : PassProgram α) (state : Reconciler σ ρ τ) :
    (program.run handler state).2.tracker.closed = state.tracker.closed := by
  induction program generalizing state with
  | done result => rfl
  | ask question next ih => exact (ih _ _).trans (closed_handler question state)

theorem closed_reconcile (notice : Notice) (state : Reconciler σ ρ τ) :
    (state.reconcile notice).2.tracker.closed = state.tracker.closed := by
  unfold reconcile
  split
  · exact closed_run _ state
  · rfl

theorem closed_advance (watched : Watched σ ρ τ) (index : Nat) :
    (watched.advance handling index).state.tracker.closed = watched.state.tracker.closed := by
  obtain ⟨after, advanced, same⟩ := Journal.exists_advanced watched index
  rw [← same]
  cases advanced with
  | ask settled held => exact closed_handler _ watched.state
  | _ => rfl

omit [TargetSource σ] [TargetRegistry ρ τ] in
theorem closed_apply (act : InitAct ρ τ) (state : Reconciler σ ρ τ) :
    (act.apply state).tracker.closed = state.tracker.closed := by
  unfold InitAct.apply
  split
  · cases act.outcome with
    | goesOn task => rfl
    | ends how => cases how <;> rfl
  · rfl

theorem breakDown_leaves (index : Nat) (detail : String) (service : Service σ ρ τ) :
    let after := service.breakDown index detail
    after.watched.state = service.watched.state ∧ after.tasks = service.tasks ∧
      after.calls = service.calls := by
  unfold Service.breakDown
  split
  · exact ⟨service.watched.abandon_state index, rfl, rfl⟩
  · exact ⟨rfl, rfl, rfl⟩

theorem state_send (index : Nat) (notice : Notice) :
    (closing.step (.send index notice)).state = closing.state :=
  closing.watched.send_state index notice

theorem state_close (index : Nat) : (closing.step (.close index)).state = closing.state :=
  closing.watched.close_state index

theorem state_breakDown (index : Nat) (detail : String) :
    (closing.step (.breakDown index detail)).state = closing.state :=
  (breakDown_leaves index detail closing.service).1

/-- What neither begins a watcher nor concerns a call. -/
theorem quiet_step (closing : Closing σ ρ τ) {step : ClosingStep σ ρ τ}
    (quiet : step.isOfCalls = false) : closing.Quiet (closing.step step) := by
  have stays := closing.stays_step step (by rintro rfl; cases quiet)
  cases step with
  | watcher index =>
      exact ⟨stays, rfl, rfl, rfl, (closed_advance closing.watched index).trans, orderly_step⟩
  | send index notice =>
      exact ⟨stays, rfl, rfl, rfl, by rw [state_send]; exact id, orderly_step⟩
  | close index => exact ⟨stays, rfl, rfl, rfl, by rw [state_close]; exact id, orderly_step⟩
  | breakDown index detail =>
      obtain ⟨_, tasks, calls⟩ := breakDown_leaves index detail closing.service
      exact ⟨stays, tasks, calls, rfl, by rw [state_breakDown]; exact id, orderly_step⟩
  | pass notice =>
      refine ⟨stays, ?_, ?_, rfl, fun closed => ?_, orderly_step⟩ <;>
        simp only [step, state, watched, serve] <;> split
      · rfl
      · rfl
      · rfl
      · rfl
      · exact (closed_reconcile notice closing.state).trans closed
      · exact closed
  | rewrite change => exact ⟨stays, rfl, rfl, rfl, id, orderly_step⟩
  | init act => exact ⟨stays, rfl, rfl, rfl, (closed_apply act closing.state).trans, orderly_step⟩
  | cancel => exact ⟨stays, rfl, rfl, rfl, id, orderly_step⟩
  | _ => cases quiet

/-- One more watcher, which the next call will wait for. -/
theorem Covered.spawn (covered : closing.Covered) : (closing.step .spawn).Covered where
  counted := covered.counted
  told := covered.told
  within := fun count begun => by
    change count ≤ (closing.watched.watchers ++ [Watcher.start]).length
    rw [List.length_append]
    exact Nat.le_add_right_of_le (covered.within count begun)
  present := by
    intro task listed
    change task < (closing.watched.watchers ++ [Watcher.start]).length
    rw [List.length_append, List.length_singleton]
    rcases listed with waiting | awaits
    · rcases List.mem_append.mp waiting with earlier | last
      · exact Nat.lt_add_right 1 (covered.present task (.inl earlier))
      · rw [List.mem_singleton.mp last]
        exact Nat.lt_succ_self _
    · exact Nat.lt_add_right 1 (covered.present task (.inr awaits))
  known := by
    intro task
    by_cases last : task = closing.watched.watchers.length
    · exact .inr (.inl (List.mem_append_right _ (List.mem_singleton.mpr last)))
    · rcases covered.known task with ends | waiting | awaits
      · refine .inl fun watcher standing => ?_
        rcases of_getElem?_append_singleton standing with before | ⟨same, _⟩
        · exact ends watcher before
        · exact absurd same last
      · exact .inr (.inl (List.mem_append_left _ waiting))
      · exact .inr (.inr awaits)
  taken := by
    intro index phase count stands begun hasTaken task waiting
    rcases List.mem_append.mp waiting with earlier | last
    · exact covered.taken index phase count stands begun hasTaken task earlier
    · rw [List.mem_singleton.mp last]
      exact covered.within count (List.mem_of_getElem? begun)
  spared := by
    intro count begun task watcher late standing
    rcases of_getElem?_append_singleton standing with before | ⟨_, rfl⟩
    · exact covered.spared count begun task watcher late before
    · exact ⟨rfl, rfl⟩
  closed := covered.closed
  inTurn := by
    intro orderly
    have inTurn := covered.inTurn (orderly_step orderly)
    refine ⟨inTurn.returned, inTurn.kept, ?_⟩
    intro index phase count stands begun waited task before watcher standing
    rcases of_getElem?_append_singleton standing with there | ⟨last, _⟩
    · exact inTurn.waited index phase count stands begun waited task before watcher there
    · have within := covered.within count (List.mem_of_getElem? begun)
      have there : task = closing.watched.watchers.length := last
      omega

theorem phase?_begin {phase : ShutdownPhase} (timeoutMs : Nat)
    (stands : (closing.step (.shutdown timeoutMs)).service.phase? index = some phase) :
    closing.service.phase? index = some phase ∨
      (index = closing.service.calls.length ∧ phase = .begun) := by
  obtain ⟨call, standing, rfl⟩ := Option.map_eq_some_iff.mp stands
  rcases of_getElem?_append_singleton standing with before | ⟨last, rfl⟩
  · exact .inl (Option.map_eq_some_iff.mpr ⟨call, before, rfl⟩)
  · exact .inr ⟨last, rfl⟩

/-- A call begins. -/
theorem Covered.shutdown (covered : closing.Covered) (timeoutMs : Nat) :
    (closing.step (.shutdown timeoutMs)).Covered where
  counted := by
    change (closing.begun ++ [_]).length = (closing.service.calls ++ [_]).length
    rw [List.length_append, List.length_append, covered.counted]
    rfl
  told := fun _ => rfl
  within := by
    intro count begun
    rcases List.mem_append.mp begun with earlier | last
    · exact covered.within count earlier
    · rw [List.mem_singleton.mp last]
      exact Nat.le_refl _
  present := by
    intro task listed
    refine covered.present task (listed.imp_right ?_)
    rintro ⟨index, phase, stands, member⟩
    rcases phase?_begin timeoutMs stands with before | ⟨_, rfl⟩
    · exact ⟨index, phase, before, member⟩
    · cases member
  known := by
    intro task
    refine (covered.known task).imp_right (Or.imp_right ?_)
    rintro ⟨index, phase, stands, member⟩
    refine ⟨index, phase, ?_, member⟩
    have inside := Service.lt_of_phase? stands
    change ((closing.service.calls ++ [_])[index]?).map _ = _
    rw [List.getElem?_append_left inside]
    exact stands
  taken := by
    intro index phase count stands begun hasTaken task waiting
    rcases phase?_begin timeoutMs stands with before | ⟨_, rfl⟩
    · have inside := Service.lt_of_phase? before
      rw [← covered.counted] at inside
      exact covered.taken index phase count before
        ((List.getElem?_append_left inside).symm.trans begun) hasTaken task waiting
    · cases hasTaken
  spared := by
    intro count begun task watcher late standing
    rcases List.mem_append.mp begun with earlier | last
    · exact covered.spared count earlier task watcher late standing
    · rw [List.mem_singleton.mp last] at late
      obtain ⟨inside, _⟩ := List.getElem?_eq_some_iff.mp standing
      exact absurd inside (Nat.not_lt.mpr late)
  closed := by
    intro index stands
    rcases phase?_begin timeoutMs stands with before | ⟨_, same⟩
    · exact covered.closed index before
    · cases same
  inTurn := by
    intro orderly
    obtain ⟨orderlyBefore, allReturned⟩ := orderly_of_step orderly
    have inTurn := covered.inTurn orderlyBefore
    refine ⟨?_, ?_, ?_⟩
    · intro index phase stands further
      rcases phase?_begin timeoutMs stands with before | ⟨last, _⟩
      · obtain ⟨call, standing, rfl⟩ := Option.map_eq_some_iff.mp before
        exact List.all_eq_true.mp allReturned call (List.mem_of_getElem? standing)
      · change index + 1 < (closing.service.calls ++ [_]).length at further
        rw [List.length_append, List.length_singleton] at further
        omega
    · intro index tasks stands
      rcases phase?_begin timeoutMs stands with before | ⟨_, same⟩
      · exact inTurn.kept index tasks before
      · cases same
    · intro index phase count stands begun waited
      rcases phase?_begin timeoutMs stands with before | ⟨_, rfl⟩
      · have inside := Service.lt_of_phase? before
        rw [← covered.counted] at inside
        exact inTurn.waited index phase count before
          ((List.getElem?_append_left inside).symm.trans begun) waited
      · cases waited

/-- Whatever a call does in one step, no watcher is forgotten. -/
theorem Covered.goOn (covered : closing.Covered) (index : Nat) (late : Bool) :
    (closing.step (.goOn index late)).Covered := by
  have stepped : closing.step (.goOn index late) =
      { closing.serving (closing.service.advanceCall late index) with
        orderly := closing.orderly && true } := rfl
  rw [stepped, Bool.and_true]
  change (closing.serving (closing.service.advanceCall late index)).Covered
  have advanced := closing.service.callAdvanced index late
  have spares := advanced.spares
  generalize closing.service.advanceCall late index = service at advanced spares ⊢
  cases advanced with
  | rest => exact covered
  | take stands =>
      exact Moves.covered {
        reaches stands spares rfl with
        fewer := nofun
        left := fun task => .inl
        known := fun task known => .inr (.inr (known.resolve_right nofun))
        taken := fun _ => .inr rfl
        closed := nofun
        waited := nofun
        returned := nofun
        orderly := fun orderly => ⟨orderly, nofun⟩ } covered
  | next stands ended =>
      exact Moves.covered {
        reaches stands spares rfl with
        fewer := fun task => id
        left := fun task member => .inr (List.mem_cons_of_mem _ member)
        known := by
          intro task known
          rcases known with waiting | member
          · exact .inr (.inl waiting)
          · rcases List.mem_cons.mp member with rfl | member
            · exact .inl (hasEnded_iff.mp ended)
            · exact .inr (.inr member)
        taken := .inl
        closed := nofun
        waited := nofun
        returned := nofun
        orderly := fun orderly => ⟨orderly, nofun⟩ } covered
  | close stands =>
      exact covered.onward stands rfl rfl spares (.inr rfl) rfl trivial fun _ => rfl
  | finish stands =>
      exact covered.onward stands rfl rfl spares (.inl trivial) rfl trivial nofun
  | expire stands =>
      exact covered.onward stands rfl rfl spares (.inl trivial) rfl trivial nofun
  | giveUp stands =>
      exact covered.onward stands rfl rfl spares (.inl trivial) rfl trivial nofun

/-- A call that is dropped keeps for itself whom it has not waited for. -/
theorem Covered.drop (covered : closing.Covered) (index : Nat) :
    (closing.step (.drop index)).Covered := by
  have spares := closing.service.spares_dropCall index
  have stepped : closing.step (.drop index) =
      { closing.serving (closing.service.dropCall index) with
        orderly := closing.orderly && false } := rfl
  rw [stepped, Bool.and_false]
  unfold Service.dropCall at spares ⊢
  cases standing : closing.service.calls[index]? with
  | none => exact { covered with inTurn := fun orderly => absurd orderly Bool.false_ne_true }
  | some call =>
      have stands : closing.service.phase? index = some call.phase := by
        rw [Service.phase?, standing]
        rfl
      simp only [standing] at spares
      have reached := reaches stands spares rfl
      exact Moves.covered {
        stands := stands
        phases := reached.phases
        length := reached.length
        begun := rfl
        spares := spares
        fewer := fun task => id
        left := fun task member => .inr (call.phase.mem_left_of_drop member)
        known := fun task known => .inr (known.imp_right call.phase.mem_left_drop)
        taken := fun taken => .inl (call.phase.hasTaken_of_drop taken)
        closed := fun same => by cases phase : call.phase <;> rw [phase] at same <;> cases same
        waited := fun waited => .inl (call.phase.hasWaited_of_drop waited)
        returned := call.phase.hasReturned_drop
        orderly := fun orderly => absurd orderly Bool.false_ne_true } covered

theorem Covered.step (covered : closing.Covered) (step : ClosingStep σ ρ τ) :
    (closing.step step).Covered := by
  cases step with
  | spawn => exact covered.spawn
  | shutdown timeoutMs => exact covered.shutdown timeoutMs
  | goOn index late => exact covered.goOn index late
  | drop index => exact covered.drop index
  | _ => exact covered.quiet (quiet_step closing rfl)

end Steps

end Telemetry.Reconciler.Closing
