import Telemetry.Proofs.Notice.Journal

/-!
What stays of watchers. A watcher that has ended has ended for good, and no notice is handed to one
that has ended or been told to stop.
-/

namespace Telemetry

/-- What stands in a place when one thing has been put to the end. -/
theorem of_getElem?_append_singleton {α : Type} {list : List α} {last found : α} {index : Nat}
    (standing : (list ++ [last])[index]? = some found) :
    list[index]? = some found ∨ (index = list.length ∧ found = last) := by
  by_cases before : index < list.length
  · exact .inl ((List.getElem?_append_left before).symm.trans standing)
  · obtain ⟨inside, _⟩ := List.getElem?_eq_some_iff.mp standing
    rw [List.length_append, List.length_singleton] at inside
    obtain rfl : index = list.length := by omega
    rw [List.getElem?_concat_length] at standing
    cases standing
    exact .inr ⟨rfl, rfl⟩

namespace Watching

variable {Question : Type} {Answer : Question → Type} {α σ : Type}
  {before middle after : Watching Answer α σ} {index : Nat} {watcher changed : Watcher}

/-- What is sent to a watcher concerns watchers only. -/
theorem send_watchers (watching : Watching Answer α σ) (index : Nat) (notice : Notice) :
    ∃ watchers, watching.send index notice = { watching with watchers := watchers } := by
  rw [send_eq]
  split
  · exact ⟨watching.watchers, rfl⟩
  · split
    · exact ⟨_, rfl⟩
    · exact ⟨watching.watchers, rfl⟩

theorem close_watchers (watching : Watching Answer α σ) (index : Nat) :
    ∃ watchers, watching.close index = { watching with watchers := watchers } := by
  unfold close
  split
  · exact ⟨watching.watchers, rfl⟩
  · exact ⟨_, rfl⟩

/-- The watchers are there later on. Those that have ended stay so, and none that has ended or been
told to stop is handed another notice, or has one in hand if it had none. -/
structure Lasts (before after : Watching Answer α σ) : Prop where
  watchers : ∀ (index : Nat) (watcher : Watcher), before.watchers[index]? = some watcher →
    ∃ later : Watcher, after.watchers[index]? = some later ∧
      (watcher.ended = true → later.ended = true) ∧
      (before.shutdown = true ∨ watcher.ended = true →
        later.handed = watcher.handed ∧ (watcher.taken = none → later.taken = none))
  shutdown : before.shutdown = true → after.shutdown = true

/-- The watchers last, and there are no others. -/
structure Stays (before after : Watching Answer α σ) : Prop extends Lasts before after where
  size : after.watchers.length = before.watchers.length

theorem Lasts.trans (earlier : Lasts before middle) (later : Lasts middle after) :
    Lasts before after where
  watchers := by
    intro index watcher standing
    obtain ⟨next, stands, ended, kept⟩ := earlier.watchers index watcher standing
    obtain ⟨last, lastStands, lastEnded, lastKept⟩ := later.watchers index next stands
    refine ⟨last, lastStands, fun already => lastEnded (ended already), fun still => ?_⟩
    obtain ⟨handed, idle⟩ := kept still
    obtain ⟨lastHanded, lastIdle⟩ := lastKept (still.imp earlier.shutdown ended)
    exact ⟨lastHanded.trans handed, fun free => lastIdle (idle free)⟩
  shutdown := fun given => later.shutdown (earlier.shutdown given)

theorem Lasts.inside (lasts : Lasts before after) (inside : index < before.watchers.length) :
    index < after.watchers.length := by
  obtain ⟨later, stands, _⟩ := lasts.watchers index _ (List.getElem?_eq_getElem inside)
  exact (List.getElem?_eq_some_iff.mp stands).1

/-- One more watcher. -/
theorem Lasts.joined (watching : Watching Answer α σ) (watcher : Watcher) :
    Lasts watching { watching with watchers := watching.watchers ++ [watcher] } where
  watchers := by
    intro index found standing
    obtain ⟨inside, _⟩ := List.getElem?_eq_some_iff.mp standing
    exact ⟨found, (List.getElem?_append_left inside).trans standing, id, fun _ => ⟨rfl, id⟩⟩
  shutdown := id

namespace Stays

theorem of_eq (watchers : after.watchers = before.watchers)
    (shutdown : before.shutdown = true → after.shutdown = true) : Stays before after where
  size := congrArg List.length watchers
  watchers := fun _ watcher standing => ⟨watcher, watchers ▸ standing, id, fun _ => ⟨rfl, id⟩⟩
  shutdown := shutdown

/-- A watcher that is replaced by one that has not been handed more, if it may not be. -/
theorem replaced (watching : Watching Answer α σ)
    (standing : watching.watchers[index]? = some watcher)
    (ended : watcher.ended = true → changed.ended = true)
    (kept : watching.shutdown = true ∨ watcher.ended = true →
      changed.handed = watcher.handed ∧ (watcher.taken = none → changed.taken = none)) :
    Stays watching (watching.replaced index changed) where
  size := List.length_set
  watchers := by
    intro other found foundAt
    by_cases same : index = other
    · subst same
      rw [standing] at foundAt
      cases foundAt
      obtain ⟨inside, _⟩ := List.getElem?_eq_some_iff.mp standing
      exact ⟨changed, List.getElem?_set_self inside, ended, kept⟩
    · exact ⟨found, (List.getElem?_set_ne same).trans foundAt, id, fun _ => ⟨rfl, id⟩⟩
  shutdown := id

/-- Beside the watchers and the signal to stop nothing matters. -/
theorem beside (stays : Stays before middle) (watchers : after.watchers = middle.watchers)
    (shutdown : middle.shutdown = true → after.shutdown = true) : Stays before after :=
  ⟨stays.toLasts.trans (of_eq watchers shutdown).toLasts,
    (congrArg List.length watchers).trans stays.size⟩

/-- A watcher that is there was there before. -/
theorem stood (stays : Stays before after) (standing : after.watchers[index]? = some watcher) :
    ∃ earlier : Watcher, before.watchers[index]? = some earlier ∧
      (before.shutdown = true →
        watcher.handed = earlier.handed ∧ (earlier.taken = none → watcher.taken = none)) := by
  obtain ⟨within, _⟩ := List.getElem?_eq_some_iff.mp standing
  rw [stays.size] at within
  have standingBefore := List.getElem?_eq_getElem within
  obtain ⟨same, stands, _, kept⟩ := stays.watchers index _ standingBefore
  cases standing.symm.trans stands
  exact ⟨_, standingBefore, fun told => kept (.inl told)⟩

end Stays

theorem send_state (watching : Watching Answer α σ) (index : Nat) (notice : Notice) :
    (watching.send index notice).state = watching.state := by
  obtain ⟨watchers, sent⟩ := watching.send_watchers index notice
  rw [sent]

theorem close_state (watching : Watching Answer α σ) (index : Nat) :
    (watching.close index).state = watching.state := by
  obtain ⟨watchers, closed⟩ := watching.close_watchers index
  rw [closed]

theorem abandon_state (watching : Watching Answer α σ) (index : Nat) :
    (watching.abandon index).state = watching.state := by
  unfold abandon
  split <;> rfl

end Watching

namespace Reconciler

open Watching (Stays)

variable {σ ρ τ : Type} [TargetSource σ] [TargetRegistry ρ τ]

theorem Journal.Advanced.stays {journal after : Journal σ ρ τ} {index : Nat}
    (advanced : journal.Advanced index after) : Stays journal.watched after.watched := by
  cases advanced with
  | leave standing => exact .replaced _ standing (fun _ => rfl) fun _ => ⟨rfl, id⟩
  | take standing working idle queued running =>
      refine .replaced _ standing id fun still => ?_
      rcases still with stopping | ended
      · rw [running] at stopping
        cases stopping
      · rw [working] at ended
        cases ended
  | skip standing => exact .replaced _ standing id fun _ => ⟨rfl, fun _ => rfl⟩
  | @finish watcher notice result standing =>
      have replaced : Stays journal.watched
          (journal.watched.replaced index { watcher with taken := none }) :=
        .replaced _ standing id fun _ => ⟨rfl, fun _ => rfl⟩
      exact replaced.beside rfl id
  | _ => exact .of_eq rfl id

/-- Whatever happens to watchers, they stay. -/
theorem stays_step (watched : Watched σ ρ τ) (step : WatchStep (Reconciler σ ρ τ)) :
    Stays watched (watched.step handling step) := by
  cases step with
  | watcher index => exact ((Journal.begin watched).advanced index).stays
  | send index notice =>
      change Stays _ (watched.send index notice)
      rw [Watching.send_eq]
      split
      · exact .of_eq rfl id
      · rename_i watcher standing
        split
        · exact .replaced _ standing id fun _ => ⟨rfl, id⟩
        · exact .of_eq rfl id
  | close index =>
      change Stays _ (watched.close index)
      unfold Watching.close
      split
      · exact .of_eq rfl id
      · rename_i watcher standing
        exact .replaced _ standing id fun _ => ⟨rfl, id⟩
  | abandon index =>
      change Stays _ (watched.abandon index)
      unfold Watching.abandon
      split
      · exact .of_eq rfl id
      · rename_i watcher standing
        have replaced : Stays watched
            (watched.replaced index { watcher with taken := none, ended := true }) :=
          .replaced _ standing (fun _ => rfl) fun _ => ⟨rfl, fun _ => rfl⟩
        exact replaced.beside rfl id
  | shutdown => exact .of_eq rfl fun _ => rfl
  | outside change => exact .of_eq rfl id

end Reconciler

end Telemetry
