import Telemetry.Proofs.Notice.Lasting

/-!
What watchers have in hand. A watcher with a notice in hand has a pass before it or holds the lock
for one, and has seen a pass through for every other notice that it was handed and that calls for
one; only a watcher that has broken down may have left one undone.
-/

namespace Telemetry

/-- What a watcher has in hand and the number of passes it has seen through account for what it was
handed, unless it has failed. -/
structure Watcher.Tends (failed : Prop) (passes : Nat) (watcher : Watcher) : Prop where
  idle : watcher.ended = true → watcher.taken = none
  calling : ∀ notice, watcher.taken = some notice → notice.kind.triggersPass = true
  seenThrough : ¬ failed → passes + (if watcher.taken.isSome then 1 else 0) =
    (watcher.handed.filter (·.kind.triggersPass)).length

namespace Reconciler

variable {σ ρ τ : Type}

/-- The number of passes that a watcher has seen through. -/
def passesOf (watched : Watched σ ρ τ) (index : Nat) : Nat :=
  (watched.finished.filter (·.1 == index)).length

/-- All watchers tend to what they are handed, and who holds the lock has a notice in hand. -/
structure Attended (failed : Nat → Prop) (watched : Watched σ ρ τ) : Prop where
  each : ∀ (index : Nat) (watcher : Watcher), watched.watchers[index]? = some watcher →
    watcher.Tends (failed index) (passesOf watched index)
  held : ∀ owner program, watched.holder = some (owner, program) →
    ∃ watcher, watched.watchers[owner]? = some watcher ∧ watcher.taken.isSome = true
  inside : ∀ ended ∈ watched.finished, ended.1 < watched.watchers.length

namespace Attended

variable {failed later : Nat → Prop} {watched after : Watched σ ρ τ} {index : Nat}
  {watcher changed : Watcher}

theorem of_eq (attended : Attended failed watched) (watchers : after.watchers = watched.watchers)
    (holder : after.holder = watched.holder) (finished : after.finished = watched.finished) :
    Attended failed after where
  each := by
    rw [watchers]
    unfold passesOf
    rw [finished]
    exact attended.each
  held := by
    rw [watchers, holder]
    exact attended.held
  inside := by
    rw [watchers, finished]
    exact attended.inside

/-- A watcher without a notice in hand does not hold the lock. -/
theorem not_held_of_idle (attended : Attended failed watched)
    (standing : watched.watchers[index]? = some watcher) (idle : watcher.taken = none)
    (program : PassProgram (Option Report)) : watched.holder ≠ some (index, program) := by
  intro held
  obtain ⟨holding, holds, busy⟩ := attended.held index program held
  cases standing.symm.trans holds
  rw [idle] at busy
  cases busy

theorem busy_of_held (attended : Attended failed watched)
    (standing : watched.watchers[index]? = some watcher) {program : PassProgram (Option Report)}
    (held : watched.holder = some (index, program)) : watcher.taken.isSome = true := by
  obtain ⟨holding, holds, busy⟩ := attended.held index program held
  cases standing.symm.trans holds
  exact busy

theorem replaced (attended : Attended failed watched)
    (standing : watched.watchers[index]? = some watcher)
    (tends : changed.Tends (failed index) (passesOf watched index))
    (busy : ∀ program, watched.holder = some (index, program) → changed.taken.isSome = true) :
    Attended failed (watched.replaced index changed) where
  each := by
    intro other found foundAt
    rcases Watching.of_getElem?_replaced foundAt with ⟨rfl, rfl⟩ | ⟨_, before⟩
    · exact tends
    · exact attended.each other found before
  held := by
    intro owner program held
    obtain ⟨holding, holds, isBusy⟩ := attended.held owner program held
    by_cases own : index = owner
    · subst own
      obtain ⟨within, _⟩ := List.getElem?_eq_some_iff.mp standing
      exact ⟨changed, List.getElem?_set_self within, busy program held⟩
    · exact ⟨holding, (List.getElem?_set_ne own).trans holds, isBusy⟩
  inside := by
    intro ended member
    exact Nat.lt_of_lt_of_eq (attended.inside ended member) List.length_set.symm

/-- A watcher that is replaced by one with the same in hand. -/
theorem replaced_alike (attended : Attended failed watched)
    (standing : watched.watchers[index]? = some watcher)
    (tends : changed.Tends (failed index) (passesOf watched index))
    (alike : changed.taken = watcher.taken) :
    Attended failed (watched.replaced index changed) :=
  attended.replaced standing tends fun _ held => by
    rw [alike]
    exact attended.busy_of_held standing held

/-- One more watcher, that has not begun. -/
theorem joined (attended : Attended failed watched) :
    Attended failed { watched with watchers := watched.watchers ++ [Watcher.start] } where
  each := by
    intro other found foundAt
    rcases of_getElem?_append_singleton foundAt with before | ⟨rfl, rfl⟩
    · exact attended.each other found before
    · -- No pass is that of a watcher that was not there.
      have none : passesOf watched watched.watchers.length = 0 := by
        refine List.length_eq_zero_iff.mpr (List.filter_eq_nil_iff.mpr fun ended member own => ?_)
        exact absurd (beq_iff_eq.mp own) (Nat.ne_of_lt (attended.inside ended member))
      exact ⟨nofun, nofun, fun _ => none⟩
  held := by
    intro owner program held
    obtain ⟨holding, holds, busy⟩ := attended.held owner program held
    obtain ⟨within, _⟩ := List.getElem?_eq_some_iff.mp holds
    exact ⟨holding, (List.getElem?_append_left within).trans holds, busy⟩
  inside := by
    intro ended member
    change _ < (watched.watchers ++ [Watcher.start]).length
    rw [List.length_append]
    exact Nat.lt_add_right 1 (attended.inside ended member)

/-- A watcher that breaks down gives the lock back and leaves what it had in hand. -/
theorem abandon (attended : Attended failed watched) (index : Nat)
    (fails : ∀ other, later other ↔ failed other ∨ other = index) :
    Attended later (watched.abandon index) := by
  have weaker : Attended later watched := by
    refine ⟨fun other found foundAt => ?_, attended.held, attended.inside⟩
    have tends := attended.each other found foundAt
    exact ⟨tends.idle, tends.calling, fun sound =>
      tends.seenThrough fun before => sound ((fails other).mpr (.inl before))⟩
  unfold Watching.abandon
  split
  · exact weaker
  · rename_i watcher standing
    refine ⟨fun other found foundAt => ?_, fun owner program held => ?_, fun ended member => ?_⟩
    · rcases Watching.of_getElem?_replaced foundAt with ⟨rfl, rfl⟩ | ⟨_, before⟩
      · exact ⟨fun _ => rfl, nofun, fun sound => absurd ((fails other).mpr (.inr rfl)) sound⟩
      · exact weaker.each other found before
    · obtain ⟨stays, another⟩ := Option.filter_eq_some_iff.mp held
      obtain ⟨holding, holds, busy⟩ := attended.held owner program stays
      have different : index ≠ owner := Ne.symm (bne_iff_ne.mp another)
      exact ⟨holding, (List.getElem?_set_ne different).trans holds, busy⟩
    · exact Nat.lt_of_lt_of_eq (attended.inside ended member) List.length_set.symm

theorem send (attended : Attended failed watched) (index : Nat) (notice : Notice) :
    Attended failed (watched.send index notice) := by
  rw [Watching.send_eq]
  split
  · exact attended
  · rename_i watcher standing
    split
    · have tends := attended.each index watcher standing
      exact attended.replaced_alike standing ⟨tends.idle, tends.calling, tends.seenThrough⟩ rfl
    · exact attended

theorem close (attended : Attended failed watched) (index : Nat) :
    Attended failed (watched.close index) := by
  unfold Watching.close
  split
  · exact attended
  · rename_i watcher standing
    have tends := attended.each index watcher standing
    exact attended.replaced_alike standing ⟨tends.idle, tends.calling, tends.seenThrough⟩ rfl

theorem take (attended : Attended failed watched) {notice : Notice} {queue : List Notice}
    (standing : watched.watchers[index]? = some watcher) (working : watcher.ended = false)
    (idle : watcher.taken = none) :
    Attended failed (watched.replaced index { watcher with
      queue := queue
      handed := watcher.handed ++ [notice]
      taken := if notice.kind.triggersPass then some notice else none }) := by
  have tends := attended.each index watcher standing
  refine attended.replaced standing ?_ fun program held =>
    absurd held (attended.not_held_of_idle standing idle program)
  refine ⟨fun ended => ?_, fun taken isTaken => ?_, fun sound => ?_⟩
  · rw [working] at ended
    cases ended
  · cases calls : notice.kind.triggersPass with
    | true =>
        rw [calls] at isTaken
        cases isTaken
        exact calls
    | false =>
        rw [calls] at isTaken
        cases isTaken
  · have counted := tends.seenThrough sound
    rw [idle] at counted
    simp only [List.filter_append, List.length_append, ← counted]
    cases calls : notice.kind.triggersPass <;> simp [calls]

theorem finish (attended : Attended failed watched) {notice : Notice} {result : Option Report}
    (standing : watched.watchers[index]? = some watcher) (busy : watcher.taken = some notice) :
    Attended failed { watched.replaced index { watcher with taken := none } with
      holder := none
      finished := watched.finished ++ [(index, result)] } := by
  have tends := attended.each index watcher standing
  refine ⟨fun other found foundAt => ?_, nofun, fun ended member => ?_⟩
  · rcases Watching.of_getElem?_replaced foundAt with ⟨rfl, rfl⟩ | ⟨different, before⟩
    · refine ⟨fun _ => rfl, nofun, fun sound => ?_⟩
      have counted := tends.seenThrough sound
      rw [busy] at counted
      simpa [passesOf, List.filter_append] using counted
    · have same := attended.each other found before
      have others : passesOf { watched.replaced index { watcher with taken := none } with
          holder := none
          finished := watched.finished ++ [(index, result)] } other = passesOf watched other := by
        simp [passesOf, List.filter_append, Ne.symm different]
      rw [others]
      exact same
  · have within : ended.1 < watched.watchers.length := by
      rcases List.mem_append.mp member with earlier | last
      · exact attended.inside ended earlier
      · rw [List.mem_singleton.mp last]
        exact (List.getElem?_eq_some_iff.mp standing).1
    exact Nat.lt_of_lt_of_eq within List.length_set.symm

variable [TargetSource σ] [TargetRegistry ρ τ]

theorem advance (attended : Attended failed watched) (index : Nat) :
    Attended failed (watched.advance handling index) := by
  obtain ⟨after, advanced, same⟩ := Journal.exists_advanced watched index
  rw [← same]
  cases advanced with
  | rest => exact attended
  | leave standing idle =>
      have tends := attended.each index _ standing
      exact attended.replaced_alike standing ⟨fun _ => idle, tends.calling, tends.seenThrough⟩ rfl
  | take standing working idle => exact attended.take standing working idle
  | skip standing busy idle =>
      have calls := (attended.each index _ standing).calling _ busy
      rw [idle] at calls
      cases calls
  | lock standing working busy =>
      refine ⟨attended.each, fun owner program held => ?_, attended.inside⟩
      cases held
      exact ⟨_, standing, by rw [busy]; rfl⟩
  | finish standing busy => exact attended.finish standing busy
  | read held =>
      refine ⟨attended.each, fun owner program isHeld => ?_, attended.inside⟩
      cases isHeld
      exact attended.held index _ held
  | ask settled held =>
      refine ⟨attended.each, fun owner program isHeld => ?_, attended.inside⟩
      cases isHeld
      exact attended.held index _ held

/-- Who holds the lock goes on with what is left of its pass. -/
theorem advance_of_held (attended : Attended failed watched)
    {program : PassProgram (Option Report)} (held : watched.holder = some (index, program)) :
    ∃ watcher, watched.watchers[index]? = some watcher ∧
      watched.advance handling index =
        match program with
        | .done result =>
            { watched.replaced index { watcher with taken := none } with
              holder := none
              finished := watched.finished ++ [(index, result)] }
        | .ask question next =>
            { watched with
              state := (handler question watched.state).2
              holder := some (index, next (handler question watched.state).1) } := by
  obtain ⟨watcher, standing, busy⟩ := attended.held index program held
  obtain ⟨notice, taken⟩ := Option.isSome_iff_exists.mp busy
  have working : watcher.ended = false := by
    refine Bool.eq_false_iff.mpr fun ended => ?_
    have idle := (attended.each index watcher standing).idle ended
    rw [taken] at idle
    cases idle
  refine ⟨watcher, standing, ?_⟩
  simp only [Watching.advance, standing, working, taken, Watching.carryOn, held]
  cases program <;> rfl

/-- While another one holds the lock, or nobody does, a watcher ends no pass and asks nothing. -/
theorem advance_of_not_held (watched : Watched σ ρ τ)
    (notHeld : ∀ program, watched.holder ≠ some (index, program)) :
    let after := watched.advance handling index
    after.state = watched.state ∧ after.finished = watched.finished ∧
      (after.holder = watched.holder ∨
        watched.holder = none ∧ after.holder = some (index, Pass.program)) := by
  obtain ⟨after, advanced, same⟩ := Journal.exists_advanced watched index
  rw [← same]
  cases advanced with
  | lock standing working busy free => exact ⟨rfl, rfl, .inr ⟨free, rfl⟩⟩
  | finish standing busy held => exact absurd held (notHeld _)
  | read held => exact absurd held (notHeld _)
  | ask settled held => exact absurd held (notHeld _)
  | _ => exact ⟨rfl, rfl, .inl rfl⟩

end Attended

end Reconciler

end Telemetry
