import Telemetry.Proofs.Registry.PlainMap

/-!
What is counted of initialisations, against what they mark. Every connection that is counted is one
that a registration was marked with; a failure is counted also when the registration is gone that it
would have been recorded with, and such failures are all that the two differ by.
-/

namespace Telemetry

open Initialising (Move)

namespace Mark

def isFailure : Mark → Bool
  | .ended (.failed _) => true
  | _ => false

theorem isEnd_of_isFailure {mark : Mark} (failure : mark.isFailure = true) : mark.isEnd = true := by
  rcases mark with _ | (_ | _ | _) <;> first | rfl | cases failure

end Mark

theorem Registry.inits_countEnding (registry : Registry) (seen : Registration) (ending : Ending)
    (metrics : Metrics) :
    (registry.countEnding seen ending metrics).inits =
      ⟨metrics.inits.ok + (registry.isLive seen && (Mark.ended ending).isConnection).toNat,
        metrics.inits.failed + (Mark.ended ending).isFailure.toNat⟩ := by
  cases ending with
  | connected channel =>
      rw [countEnding]
      cases registry.isLive seen <;> rfl
  | failed reason => cases registry.isLive seen <;> rfl
  | cancelled => cases registry.isLive seen <;> rfl

/-- What is recorded with a registration that is still there changes its entry. -/
theorem Registry.entryAt?_record {registry : Registry} {seen : Registration} {ending : Ending}
    (live : registry.isLive seen = true) :
    (registry.record seen ending).entryAt? seen.name =
      (registry.entryAt? seen.name).map (applyEnding ending) := by
  have current := isLive_iff.mp live
  rw [record, entryAt?_update, if_pos rfl]
  cases found : registry.entryAt? seen.name with
  | none => rfl
  | some entry =>
      rw [generation?, found] at current
      exact congrArg some (if_pos (Option.some.inj current))

namespace Initialising

variable {state : Initialising} {next : Move} {seen : Registration} {ending : Ending}

/-- The ending with which an initialisation comes to its end in a move, and the registration that it
has seen. -/
def ending? (state : Initialising) : Move → Option (Registration × Ending)
  | .init (.proceed place) =>
      match state.tasks[place]? with
      | some (.concluded seen ending) => some (seen, ending)
      | _ => none
  | _ => none

/-- Whether an initialisation that has failed comes to its end when its registration is gone. -/
def losesFailure (state : Initialising) (next : Move) : Bool :=
  match state.ending? next with
  | some (seen, ending) => (Mark.ended ending).isFailure && !state.registry.isLive seen
  | none => false

theorem losesFailure_eq_false_iff : state.losesFailure next = false ↔
    ∀ seen reason, state.ending? next = some (seen, .failed reason) →
      state.registry.isLive seen = true := by
  rw [losesFailure]
  cases state.ending? next with
  | none => simp
  | some found =>
      obtain ⟨seen, ending⟩ := found
      cases ending <;> simp [Mark.isFailure]

/-- How many failures find no registration to be recorded with. -/
def lostFailures : Initialising → List Move → Nat
  | _, [] => 0
  | state, next :: later => (state.losesFailure next).toNat + lostFailures (state.move next) later

theorem lostFailures_append (state : Initialising) (earlier : List Move) (last : Move) :
    lostFailures state (earlier ++ [last]) =
      lostFailures state earlier + ((earlier.foldl move state).losesFailure last).toNat := by
  induction earlier generalizing state with
  | nil => simp [lostFailures]
  | cons first rest ih =>
      rw [List.cons_append, lostFailures, ih, lostFailures, Nat.add_assoc]
      rfl

theorem lostFailures_eq_zero_iff (state : Initialising) (moves : List Move) :
    lostFailures state moves = 0 ↔
      ∀ earlier next, earlier ++ [next] <+: moves →
        (earlier.foldl move state).losesFailure next = false := by
  induction moves using List.reverseRecOn with
  | nil => simp [lostFailures]
  | append_singleton before last ih =>
      rw [lostFailures_append, Nat.add_eq_zero_iff, ih]
      constructor
      · rintro ⟨none, notLast⟩ earlier next within
        rcases List.prefix_concat_iff.mp within with same | inside
        · obtain ⟨rfl, single⟩ := List.append_inj' same rfl
          cases single
          exact Bool.toNat_eq_zero.mp notLast
        · exact none earlier next inside
      · intro none
        refine ⟨fun earlier next inside => ?_, ?_⟩
        · exact none earlier next (inside.trans (List.prefix_append _ _))
        · rw [none before last (List.prefix_refl _)]
          rfl

/-- Nothing but the end of an initialisation counts it. -/
theorem inits_move (state : Initialising) (next : Move) :
    (state.move next).metrics.inits =
      match state.ending? next with
      | some (seen, ending) => (state.registry.countEnding seen ending state.metrics).inits
      | none => state.metrics.inits := by
  cases next with
  | init step =>
      cases step with
      | proceed place =>
          change (state.proceed place).metrics.inits = _
          rw [ending?, proceed]
          cases state.tasks[place]? with
          | none => rfl
          | some task =>
              cases task with
              | spawned name =>
                  cases observed : state.registry.observe name <;> simp only [observed] <;> rfl
              | _ => rfl
      | conclude place ending =>
          change (state.conclude place ending).metrics.inits = _
          unfold conclude
          split
          · split <;> rfl
          · rfl
      | abandon place => rfl
  | _ => rfl

theorem registry_move_of_ending (ends : state.ending? next = some (seen, ending)) :
    (state.move next).registry = state.registry.record seen ending := by
  cases next with
  | init step =>
      cases step with
      | proceed place =>
          change (state.proceed place).registry = _
          rw [ending?] at ends
          split at ends
          · rename_i standing
            cases ends
            simp only [proceed, standing]
          · cases ends
      | _ => cases ends
  | _ => cases ends

end Initialising

namespace History

/-- The calls behind the initialisations that have made a mark of a kind. -/
def callersThat (history : History) (kind : Mark → Bool) : List Nat :=
  (history.markings.filter fun marking => kind marking.mark).map Marking.caller

variable {history : History} {state : Initialising} {registry : Registry} (kind : Mark → Bool)

theorem length_callersThat_marks (history : History) (registry : Registry) (caller : Nat)
    (seen : Registration) (mark : Mark) :
    ((history.marks registry caller seen mark).callersThat kind).length =
      (history.callersThat kind).length + (registry.isLive seen && kind mark).toNat := by
  unfold marks
  cases registry.isLive seen with
  | false => simp
  | true => cases isKind : kind mark <;> simp [callersThat, isKind]

/-- Marks that end an initialisation are made when it comes to its end, if its registration is still
there. -/
theorem length_callersThat_note (ends : ∀ {mark}, kind mark = true → mark.isEnd = true)
    (paired : history.callers.length = state.tasks.length) (next : Move) :
    ((history.note state next).callersThat kind).length =
      (history.callersThat kind).length +
        match state.ending? next with
        | some (seen, ending) => (state.registry.isLive seen && kind (.ended ending)).toNat
        | none => 0 := by
  cases next with
  | init step =>
      cases step with
      | proceed place =>
          change ((history.proceeds state place).callersThat kind).length = _
          rw [proceeds, Initialising.ending?]
          cases standing : state.tasks[place]? with
          | none => cases history.callers[place]? <;> rfl
          | some task =>
              obtain ⟨inside, _⟩ := List.getElem?_eq_some_iff.mp standing
              rw [List.getElem?_eq_getElem (paired.symm ▸ inside)]
              cases task with
              | spawned name =>
                  cases observed : state.registry.observe name <;> simp only [observed] <;> rfl
              | observed seen =>
                  have unended : kind .connecting = false :=
                    Bool.eq_false_iff.mpr fun isKind => Bool.false_ne_true (ends isKind)
                  simp only [length_callersThat_marks, unended, Bool.and_false]
                  rfl
              | connecting seen => rfl
              | concluded seen ending =>
                  simp only [length_callersThat_marks]
                  rfl
      | _ => rfl
  | _ => rfl

/-- Each initialisation makes one mark at most that ends it. -/
theorem Accounts.callersThat_nodup (accounts : history.Accounts registry)
    (ends : ∀ {mark}, kind mark = true → mark.isEnd = true) : (history.callersThat kind).Nodup := by
  refine List.pairwise_map.mpr (List.pairwise_filter.mpr (accounts.last.imp ?_))
  intro earlier later once isKind _ same
  exact once (ends isKind) same.symm

/-- The counts are those of the marks, and of the failures that could not be marked. -/
structure Counts (history : History) (metrics : Metrics) (lost : Nat) : Prop where
  connections : metrics.inits.ok = (history.callersThat Mark.isConnection).length
  failures : metrics.inits.failed = (history.callersThat Mark.isFailure).length + lost

theorem Counts.note {lost : Nat} (counts : history.Counts state.metrics lost)
    (paired : history.callers.length = state.tasks.length) (next : Move) :
    (history.note state next).Counts (state.move next).metrics
      (lost + (state.losesFailure next).toNat) := by
  have connections :=
    length_callersThat_note Mark.isConnection Mark.isEnd_of_isConnection paired next
  have failures := length_callersThat_note Mark.isFailure Mark.isEnd_of_isFailure paired next
  have counted := state.inits_move next
  rw [Initialising.losesFailure]
  cases ends : state.ending? next with
  | none =>
      simp only [ends] at connections failures counted ⊢
      rw [Nat.add_zero] at connections failures
      exact ⟨by rw [counted, connections, counts.connections],
        by rw [counted, failures, counts.failures]; rfl⟩
  | some found =>
      obtain ⟨seen, ending⟩ := found
      simp only [ends, Registry.inits_countEnding] at connections failures counted ⊢
      -- a connection is marked and counted on one condition, a failure is counted on none
      refine ⟨?_, ?_⟩
      · rw [counted, connections, counts.connections]
      · rw [counted, failures, counts.failures]
        cases (Mark.ended ending).isFailure <;> cases state.registry.isLive seen <;> simp <;> omega

end History

namespace Recorded

open Initialising (after lostFailures)

theorem run_counts (dialing : Dialing) (moves : List Move) :
    ((start dialing).run moves).history.Counts ((start dialing).run moves).state.metrics
      (lostFailures (Initialising.empty dialing) moves) := by
  induction moves using List.reverseRecOn with
  | nil => exact ⟨rfl, rfl⟩
  | append_singleton earlier last ih =>
      have paired := (run_sound dialing earlier).tracks.paired
      have state : ((start dialing).run earlier).state =
          earlier.foldl Initialising.move (Initialising.empty dialing) := run_state _ earlier
      rw [Initialising.lostFailures_append, ← state, run, List.foldl_append]
      exact ih.note paired last

/-- An initialisation that comes to its end when its registration is gone changes no entry, and is
counted exactly when it has failed. -/
theorem gone_counted_iff {state : Initialising} {next : Move} {seen : Registration}
    {ending : Ending} (ends : state.ending? next = some (seen, ending))
    (gone : state.registry.isLive seen = false) :
    (state.move next).registry = state.registry ∧
      ((state.move next).metrics.inits = state.metrics.inits ↔
        (Mark.ended ending).isFailure = false) := by
  refine ⟨?_, ?_⟩
  · rw [Initialising.registry_move_of_ending ends]
    exact Registry.update_of_not_isLive gone
  · have counted := state.inits_move next
    simp only [ends, Registry.inits_countEnding, gone, Bool.false_and, Bool.toNat_false,
      Nat.add_zero] at counted
    rw [counted]
    cases (Mark.ended ending).isFailure with
    | false => exact ⟨fun _ => rfl, fun _ => rfl⟩
    | true =>
        refine ⟨fun same => ?_, nofun⟩
        exact absurd (congrArg Tally.failed same) (Nat.succ_ne_self _)

/-- The counts of successes and of failures are the numbers of initialisations that mark a
registration as connected and as failed, and an initialisation whose registration is gone when it
comes to its end counts as neither. All of this holds of a run exactly when no initialisation that
has failed finds its registration gone; each that does is counted as one failure more. -/
theorem inits_counted_iff (dialing : Dialing) (moves : List Move) :
    let recorded := (start dialing).run moves
    let counted := recorded.state.metrics.inits
    let connected := recorded.history.callersThat Mark.isConnection
    let failed := recorded.history.callersThat Mark.isFailure
    connected.Nodup ∧ failed.Nodup ∧
    counted.ok = connected.length ∧
    counted.failed = failed.length + lostFailures (Initialising.empty dialing) moves ∧
    (∀ earlier next seen ending, earlier ++ [next] <+: moves →
      (after dialing earlier).ending? next = some (seen, ending) →
      (after dialing earlier).registry.isLive seen = true →
      (after dialing (earlier ++ [next])).registry.entryAt? seen.name =
        ((after dialing earlier).registry.entryAt? seen.name).map (Registry.applyEnding ending)) ∧
    ((counted.failed = failed.length ∧
        ∀ earlier next seen ending, earlier ++ [next] <+: moves →
          (after dialing earlier).ending? next = some (seen, ending) →
          (after dialing earlier).registry.isLive seen = false →
          (after dialing (earlier ++ [next])).metrics.inits =
            (after dialing earlier).metrics.inits) ↔
      ∀ earlier next seen reason, earlier ++ [next] <+: moves →
        (after dialing earlier).ending? next = some (seen, .failed reason) →
        (after dialing earlier).registry.isLive seen = true) := by
  intro recorded counted connected failed
  have accounts := (run_sound dialing moves).accounts
  have counts := run_counts dialing moves
  have step : ∀ earlier next, after dialing (earlier ++ [next]) =
      (after dialing earlier).move next := fun earlier next => by
    rw [after, List.foldl_append]
    rfl
  refine ⟨accounts.callersThat_nodup _ Mark.isEnd_of_isConnection,
    accounts.callersThat_nodup _ Mark.isEnd_of_isFailure, counts.connections, counts.failures,
    ?_, ?_⟩
  · intro earlier next seen ending _ ends live
    rw [step, Initialising.registry_move_of_ending ends]
    exact Registry.entryAt?_record live
  · rw [counts.failures, Nat.add_eq_left, Initialising.lostFailures_eq_zero_iff]
    constructor
    · rintro ⟨none, _⟩ earlier next seen reason within ends
      exact Initialising.losesFailure_eq_false_iff.mp (none earlier next within) seen reason ends
    · intro kept
      refine ⟨fun earlier next within => ?_, ?_⟩
      · exact Initialising.losesFailure_eq_false_iff.mpr fun seen reason ends =>
          kept earlier next seen reason within ends
      · intro earlier next seen ending within ends gone
        rw [step]
        refine (gone_counted_iff ends gone).2.mpr ?_
        cases ending with
        | failed reason =>
            rw [kept earlier next seen reason within ends] at gone
            cases gone
        | connected channel => rfl
        | cancelled => rfl

/-- A target is deleted and added again between the end of an attempt that fails and its record. -/
def replacedBeforeRecord : List Move :=
  let target := Target.ofAddress "a" "-h:1"
  [.add target, .call "a", .init (.proceed 0), .init (.proceed 0),
    .init (.conclude 0 (.failed (.target (.connect "a")))),
    .delete "a", .add target, .init (.proceed 0)]

theorem unrecorded_failure_counted :
    let recorded := (start ⟨false, none, false⟩).run replacedBeforeRecord
    recorded.state.metrics.inits = ⟨0, 1⟩ ∧ recorded.history.callersThat Mark.isFailure = [] ∧
      recorded.state.registry.entryAt? "a" =
        some (Entry.start (Target.ofAddress "a" "-h:1") 1) := by
  decide

end Recorded

end Telemetry
