import Telemetry.Proofs.Reconcile.Shape
import Telemetry.Proofs.Transcript

/-!
What a pass does that runs alone. It tries one deletion after the other, then one addition after the
other, and all that it reports, spawns, counts and notes is what the answers say.
-/

namespace Telemetry

/-- Things that a step has been tried on, with the answers. -/
abbrev Tried (α : Type) := List (α × Except Error Unit)

namespace Tried

variable {α : Type} {item : α} {done : Unit} {reason : Error} {tried : Tried α}

def succeeded (tried : Tried α) : List α := (tried.filter (·.2.isOk)).map (·.1)

def failed (tried : Tried α) : List α := (tried.filter (!·.2.isOk)).map (·.1)

@[simp] theorem succeeded_ok :
    succeeded ((item, .ok done) :: tried) = item :: tried.succeeded := rfl

@[simp] theorem succeeded_error :
    succeeded ((item, .error reason) :: tried) = tried.succeeded := rfl

@[simp] theorem failed_ok : failed ((item, .ok done) :: tried) = tried.failed := rfl

@[simp] theorem failed_error : failed ((item, .error reason) :: tried) = item :: tried.failed := rfl

theorem succeeded_sublist (tried : Tried α) : tried.succeeded.Sublist (tried.map (·.1)) :=
  List.filter_sublist.map _

theorem failed_sublist (tried : Tried α) : tried.failed.Sublist (tried.map (·.1)) :=
  List.filter_sublist.map _

theorem succeeded_of_forall_ok (all : ∀ trial ∈ tried, trial.2 = .ok ()) :
    tried.succeeded = tried.map (·.1) := by
  rw [succeeded, List.filter_eq_self.mpr fun trial member => by rw [all trial member]; rfl]

theorem succeeded_append_failed_perm (tried : Tried α) :
    (tried.succeeded ++ tried.failed).Perm (tried.map (·.1)) := by
  rw [succeeded, failed, ← List.map_append]
  exact (List.filter_append_perm (·.2.isOk) tried).map _

end Tried

/-- Tries a step on one thing after the other. -/
def tryEach {α ρ : Type} (step : α → ρ → Except Error Unit × ρ) : List α → ρ → Tried α × ρ
  | [], registry => ([], registry)
  | item :: items, registry =>
      let (answer, registry) := step item registry
      let (tried, registry) := tryEach step items registry
      ((item, answer) :: tried, registry)

theorem map_fst_tryEach {α ρ : Type} (step : α → ρ → Except Error Unit × ρ) (items : List α)
    (registry : ρ) : (tryEach step items registry).1.map (·.1) = items := by
  induction items generalizing registry with
  | nil => rfl
  | cons item items ih => exact congrArg (List.cons item) (ih _)

/-- Counts so many operations. -/
def Tally.grown (tally : Tally) (ok failed : Nat) : Tally := ⟨tally.ok + ok, tally.failed + failed⟩

namespace Report

def withDeletions (report : Report) (tried : Tried String) : Report :=
  { report with
    deleted := report.deleted ++ tried.succeeded
    failedDeletes := report.failedDeletes ++ tried.failed }

def withAdditions (report : Report) (tried : Tried (String × Target)) : Report :=
  { report with
    added := report.added ++ tried.succeeded.map (·.1)
    failedAdds := report.failedAdds ++ tried.failed.map (·.1) }

theorem withDeletions_cons (report : Report) (name : String) (answer : Except Error Unit)
    (tried : Tried String) :
    (report.deletion name answer.isOk).withDeletions tried =
      report.withDeletions ((name, answer) :: tried) := by
  cases answer <;> simp [deletion, withDeletions, Except.isOk, Except.toBool]

theorem withAdditions_cons (report : Report) (entry : String × Target)
    (answer : Except Error Unit) (tried : Tried (String × Target)) :
    (report.addition entry.1 answer.isOk).withAdditions tried =
      report.withAdditions ((entry, answer) :: tried) := by
  cases answer <;> simp [addition, withAdditions, Except.isOk, Except.toBool]

end Report

namespace PassQuestion

/-- Whether a question is a step that a pass has decided on. -/
def isDeed : PassQuestion → Bool
  | .delete _ => true
  | .add _ => true
  | .spawn _ => true
  | _ => false

def added? : PassQuestion → Option Target
  | .add target => some target
  | _ => none

def spawned? : PassQuestion → Option String
  | .spawn name => some name
  | _ => none

end PassQuestion

namespace Pass

/-- The steps among some exchanges, first one first. -/
def deeds (asked : List (Exchange PassQuestion.Answer)) : List (Exchange PassQuestion.Answer) :=
  asked.filter (·.question.isDeed)

theorem deeds_append (first second : List (Exchange PassQuestion.Answer)) :
    deeds (first ++ second) = deeds first ++ deeds second :=
  List.filter_append _ _

/-- What is told of steps alone is told by the steps. -/
theorem filterMap_deeds {β : Type} {told : PassQuestion → Option β}
    (ofDeeds : ∀ question, question.isDeed = false → told question = none)
    (asked : List (Exchange PassQuestion.Answer)) :
    (deeds asked).filterMap (told ·.question) = asked.filterMap (told ·.question) := by
  induction asked with
  | nil => rfl
  | cons exchange asked ih =>
      rw [deeds] at ih ⊢
      rw [List.filter_cons]
      split
      · rw [List.filterMap_cons, List.filterMap_cons, ih]
      · rename_i other
        have nothing := ofDeeds exchange.question (Bool.not_eq_true _ ▸ other)
        rw [ih, List.filterMap_cons, nothing]

def deletionDeed (trial : String × Except Error Unit) : Exchange PassQuestion.Answer :=
  ⟨.delete trial.1, trial.2⟩

def deletionNotes : String × Except Error Unit → List LogEntry
  | (_, .ok ()) => []
  | (name, .error reason) => [failedDeleteEntry name reason]

/-- An addition, and the spawning right after one that goes well. -/
def additionDeeds : (String × Target) × Except Error Unit → List (Exchange PassQuestion.Answer)
  | ((name, target), .ok ()) => [⟨.add target, .ok ()⟩, ⟨.spawn name, ()⟩]
  | ((_, target), .error reason) => [⟨.add target, .error reason⟩]

def additionNotes : (String × Target) × Except Error Unit → List LogEntry
  | (_, .ok ()) => []
  | ((name, _), .error reason) => [failedAddEntry name reason]

end Pass

/-- What a pass does to a registry. -/
structure Effort (ρ : Type) where
  deletions : Tried String
  additions : Tried (String × Target)
  /-- The registry in the end. -/
  registry : ρ

namespace Effort

variable {ρ : Type}

def deeds (effort : Effort ρ) : List (Exchange PassQuestion.Answer) :=
  effort.deletions.map Pass.deletionDeed ++ effort.additions.flatMap Pass.additionDeeds

def report (effort : Effort ρ) : Report where
  added := effort.additions.succeeded.map (·.1)
  deleted := effort.deletions.succeeded
  failedAdds := effort.additions.failed.map (·.1)
  failedDeletes := effort.deletions.failed

end Effort

namespace Reconciler

/-- The targets whose addition was asked for, first one first. -/
def added (exchanges : List (Exchange PassQuestion.Answer)) : List Target :=
  exchanges.filterMap (·.question.added?)

/-- The names whose initialisation was begun, first one first. -/
def spawned (exchanges : List (Exchange PassQuestion.Answer)) : List String :=
  exchanges.filterMap (·.question.spawned?)

theorem added_append (first second : List (Exchange PassQuestion.Answer)) :
    added (first ++ second) = added first ++ added second :=
  List.filterMap_append

theorem spawned_append (first second : List (Exchange PassQuestion.Answer)) :
    spawned (first ++ second) = spawned first ++ spawned second :=
  List.filterMap_append

theorem added_deeds (asked : List (Exchange PassQuestion.Answer)) :
    added (Pass.deeds asked) = added asked := by
  refine Pass.filterMap_deeds (fun question other => ?_) asked
  cases question <;> first | rfl | cases other

theorem spawned_deeds (asked : List (Exchange PassQuestion.Answer)) :
    spawned (Pass.deeds asked) = spawned asked := by
  refine Pass.filterMap_deeds (fun question other => ?_) asked
  cases question <;> first | rfl | cases other

theorem added_deletions (deletions : Tried String) :
    added (deletions.map Pass.deletionDeed) = [] := by
  rw [added, List.filterMap_map]
  exact List.filterMap_eq_nil_iff.mpr fun _ _ => rfl

theorem spawned_deletions (deletions : Tried String) :
    spawned (deletions.map Pass.deletionDeed) = [] := by
  rw [spawned, List.filterMap_map]
  exact List.filterMap_eq_nil_iff.mpr fun _ _ => rfl

theorem added_additions (additions : Tried (String × Target)) :
    added (additions.flatMap Pass.additionDeeds) = (additions.map (·.1)).map (·.2) := by
  induction additions with
  | nil => rfl
  | cons trial additions ih =>
      rw [List.flatMap_cons, added_append, ih]
      obtain ⟨entry, reason | done⟩ := trial <;> rfl

theorem spawned_additions (additions : Tried (String × Target)) :
    spawned (additions.flatMap Pass.additionDeeds) = additions.succeeded.map (·.1) := by
  induction additions with
  | nil => rfl
  | cons trial additions ih =>
      rw [List.flatMap_cons, spawned_append, ih]
      obtain ⟨entry, reason | done⟩ := trial <;> rfl

variable {σ ρ τ : Type} [TargetSource σ] [TargetRegistry ρ τ]

/-- After deletions have been tried. -/
def withDeletions (state : Reconciler σ ρ τ) (tried : Tried String) (registry : ρ) :
    Reconciler σ ρ τ :=
  { state with
    registry := registry
    metrics := { state.metrics with
      deletes := state.metrics.deletes.grown tried.succeeded.length tried.failed.length }
    log := state.log ++ tried.flatMap Pass.deletionNotes }

/-- After additions have been tried. -/
def withAdditions (state : Reconciler σ ρ τ) (tried : Tried (String × Target)) (registry : ρ) :
    Reconciler σ ρ τ :=
  { state with
    registry := registry
    pending := state.pending ++ tried.succeeded.map fun entry => TargetRegistry.spawn ρ entry.1
    tracker := { state.tracker with tokens := state.tracker.tokens + tried.succeeded.length }
    metrics := { state.metrics with
      adds := state.metrics.adds.grown tried.succeeded.length tried.failed.length
      pendingInits := state.metrics.pendingInits + tried.succeeded.length }
    log := state.log ++ tried.flatMap Pass.additionNotes }

def tryDeletions (names : List String) (registry : ρ) : Tried String × ρ :=
  tryEach TargetRegistry.delete names registry

def tryAdditions (targets : List (String × Target)) (registry : ρ) : Tried (String × Target) × ρ :=
  tryEach (fun entry => TargetRegistry.add entry.2) targets registry

omit [TargetSource σ] [TargetRegistry ρ τ] in
theorem withDeletions_ok (state : Reconciler σ ρ τ) (between registry : ρ) (name : String)
    (tried : Tried String) :
    { state with
      registry := between
      metrics := state.metrics.record .delete true }.withDeletions tried registry =
      state.withDeletions ((name, .ok ()) :: tried) registry := by
  simp [withDeletions, Pass.deletionNotes, Tally.grown, Metrics.record, Metrics.Tally.count,
    Nat.add_assoc, Nat.add_comm 1]

omit [TargetSource σ] [TargetRegistry ρ τ] in
theorem withDeletions_error (state : Reconciler σ ρ τ) (between registry : ρ) (name : String)
    (reason : Error) (tried : Tried String) :
    { state with
      registry := between
      metrics := state.metrics.record .delete false
      log := state.log ++ [Pass.failedDeleteEntry name reason] }.withDeletions tried registry =
      state.withDeletions ((name, .error reason) :: tried) registry := by
  simp [withDeletions, Pass.deletionNotes, Tally.grown, Metrics.record, Metrics.Tally.count,
    Nat.add_assoc, Nat.add_comm 1]

theorem run_deleteAll (names : List String) (report : Report) (state : Reconciler σ ρ τ) :
    (Pass.deleteAll names report).run handler state =
      (report.withDeletions (tryDeletions names state.registry).1,
        state.withDeletions (tryDeletions names state.registry).1
          (tryDeletions names state.registry).2) := by
  induction names generalizing report state with
  | nil => simp [Pass.deleteAll, tryDeletions, tryEach, Report.withDeletions, withDeletions,
      Tally.grown, Tried.succeeded, Tried.failed]
  | cons name names ih =>
      rw [Pass.deleteAll, Program.run_ask, tryDeletions, tryEach]
      rcases step : TargetRegistry.delete name state.registry with ⟨reason | done, registry⟩
      · simp only [handler, step, Program.run_ask]
        rw [ih, withDeletions_error]
        exact congrArg (·, _) (Report.withDeletions_cons report name (.error reason) _)
      · simp only [handler, step, Program.run_ask]
        rw [ih, withDeletions_ok _ _ _ name]
        exact congrArg (·, _) (Report.withDeletions_cons report name (.ok ()) _)

omit [TargetSource σ] in
theorem withAdditions_ok (state : Reconciler σ ρ τ) (between registry : ρ)
    (entry : String × Target) (tried : Tried (String × Target)) :
    ({ state with
      registry := between
      metrics := state.metrics.record .add true }.beginInit
        (TargetRegistry.spawn ρ entry.1)).withAdditions tried registry =
      state.withAdditions ((entry, .ok ()) :: tried) registry := by
  simp [withAdditions, Pass.additionNotes, Tally.grown, Metrics.record, beginInit, takeGuard, track,
    Tracker.give, Metrics.takeGuard, Metrics.Tally.count, Nat.add_assoc, Nat.add_comm 1,
    Int.add_assoc, Int.add_comm 1]

omit [TargetSource σ] in
theorem withAdditions_error (state : Reconciler σ ρ τ) (between registry : ρ)
    (entry : String × Target) (reason : Error) (tried : Tried (String × Target)) :
    { state with
      registry := between
      metrics := state.metrics.record .add false
      log := state.log ++ [Pass.failedAddEntry entry.1 reason] }.withAdditions tried registry =
      state.withAdditions ((entry, .error reason) :: tried) registry := by
  simp [withAdditions, Pass.additionNotes, Tally.grown, Metrics.record, Metrics.Tally.count,
    Nat.add_assoc, Nat.add_comm 1]

theorem run_addAll (targets : List (String × Target)) (report : Report)
    (state : Reconciler σ ρ τ) :
    (Pass.addAll targets report).run handler state =
      (report.withAdditions (tryAdditions targets state.registry).1,
        state.withAdditions (tryAdditions targets state.registry).1
          (tryAdditions targets state.registry).2) := by
  induction targets generalizing report state with
  | nil => simp [Pass.addAll, tryAdditions, tryEach, Report.withAdditions, withAdditions,
      Tally.grown, Tried.succeeded, Tried.failed]
  | cons entry targets ih =>
      rw [Pass.addAll, Program.run_ask, tryAdditions, tryEach]
      rcases step : TargetRegistry.add entry.2 state.registry with ⟨reason | done, registry⟩
      · simp only [handler, step, Program.run_ask]
        rw [ih, withAdditions_error]
        exact congrArg (·, _) (Report.withAdditions_cons report entry (.error reason) _)
      · simp only [handler, step, Program.run_ask]
        rw [ih, withAdditions_ok]
        exact congrArg (·, _) (Report.withAdditions_cons report entry (.ok ()) _)

theorem deeds_deleteAll (names : List String) (report : Report) (state : Reconciler σ ρ τ) :
    Pass.deeds ((Pass.deleteAll names report).transcript handler state) =
      (tryDeletions names state.registry).1.map Pass.deletionDeed := by
  induction names generalizing report state with
  | nil => rfl
  | cons name names ih =>
      rw [Pass.deleteAll, Program.transcript_ask, tryDeletions, tryEach]
      rcases step : TargetRegistry.delete name state.registry with ⟨reason | done, registry⟩
      · simp only [handler, step, Program.transcript_ask]
        exact congrArg (List.cons _) (ih _ _)
      · simp only [handler, step, Program.transcript_ask]
        exact congrArg (List.cons _) (ih _ _)

theorem deeds_addAll (targets : List (String × Target)) (report : Report)
    (state : Reconciler σ ρ τ) :
    Pass.deeds ((Pass.addAll targets report).transcript handler state) =
      (tryAdditions targets state.registry).1.flatMap Pass.additionDeeds := by
  induction targets generalizing report state with
  | nil => rfl
  | cons target targets ih =>
      rw [Pass.addAll, Program.transcript_ask, tryAdditions, tryEach]
      rcases step : TargetRegistry.add target.2 state.registry with ⟨reason | done, registry⟩
      · simp only [handler, step, Program.transcript_ask]
        exact congrArg (List.cons _) (ih _ _)
      · simp only [handler, step, Program.transcript_ask]
        exact congrArg (fun rest => _ :: _ :: rest) (ih _ _)

theorem deeds_finish (report : Report) (state : Reconciler σ ρ τ) :
    Pass.deeds ((Pass.finish report).transcript handler state) = [] := by
  unfold Pass.finish
  split <;> rfl

/-- With a word about what was done, if anything was. -/
def withSummary (state : Reconciler σ ρ τ) (report : Report) : Reconciler σ ρ τ :=
  if report.isNoop then state else { state with log := state.log ++ [Pass.summaryEntry report] }

theorem run_finish (report : Report) (state : Reconciler σ ρ τ) :
    (Pass.finish report).run handler state = (some report, state.withSummary report) := by
  rw [Pass.finish, withSummary]
  split <;> rfl

/-- What a pass does that goes by some targets. -/
def effort (declared : TargetSet) (registry : ρ) : Effort ρ :=
  let live := TargetRegistry.names registry
  let (deletions, registry) := tryDeletions (Pass.stale declared live) registry
  let (additions, registry) := tryAdditions (Pass.fresh declared live) registry
  ⟨deletions, additions, registry⟩

theorem deletions_effort (declared : TargetSet) (registry : ρ) :
    (effort declared registry).deletions.map (·.1) =
      Pass.stale declared (TargetRegistry.names registry) :=
  map_fst_tryEach _ _ _

theorem additions_effort (declared : TargetSet) (registry : ρ) :
    (effort declared registry).additions.map (·.1) =
      Pass.fresh declared (TargetRegistry.names registry) :=
  map_fst_tryEach _ _ _

/-- After a pass. -/
def withEffort (state : Reconciler σ ρ τ) (effort : Effort ρ) : Reconciler σ ρ τ :=
  ((state.withDeletions effort.deletions effort.registry).withAdditions effort.additions
    effort.registry).withSummary effort.report

theorem run_forDeclared (declared : TargetSet) (state : Reconciler σ ρ τ) :
    (Pass.forDeclared declared).run handler state =
      (some (effort declared state.registry).report,
        state.withEffort (effort declared state.registry)) := by
  change (((Pass.deleteAll _ .empty).bind (Pass.addAll _)).bind Pass.finish).run handler state = _
  rw [Program.run_then, Program.run_then, run_deleteAll, run_addAll, run_finish]
  rfl

theorem deeds_forDeclared (declared : TargetSet) (state : Reconciler σ ρ τ) :
    Pass.deeds ((Pass.forDeclared declared).transcript handler state) =
      (effort declared state.registry).deeds := by
  change Pass.deeds ((((Pass.deleteAll _ .empty).bind (Pass.addAll _)).bind
    Pass.finish).transcript handler state) = _
  rw [Program.transcript_bind, Program.transcript_bind, Pass.deeds_append, Pass.deeds_append,
    deeds_deleteAll, run_deleteAll, deeds_addAll, deeds_finish, List.append_nil]
  rfl

variable {declared : TargetSet} {state : Reconciler σ ρ τ}

/-- A state after what is declared has been read. -/
def afterReading (state : Reconciler σ ρ τ) : Reconciler σ ρ τ :=
  { state with source := (TargetSource.read state.source).2 }

omit [TargetRegistry ρ τ] in
theorem afterReading_eq_forDeclared
    (goesBy : Pass.desired (TargetSource.read state.source).1 = some declared) :
    Pass.afterReading (TargetSource.read state.source).1 = Pass.forDeclared declared := by
  rcases Pass.afterReading_cases (TargetSource.read state.source).1 with
    ⟨other, same, next⟩ | ⟨reason, _, nothing, _⟩
  · rw [goesBy] at same
    cases same
    exact next
  · rw [goesBy] at nothing
    cases nothing

theorem run_program (goesBy : Pass.desired (TargetSource.read state.source).1 = some declared) :
    Pass.program.run handler state =
      (some (effort declared state.registry).report,
        (afterReading state).withEffort (effort declared state.registry)) := by
  rw [Pass.program_eq, Program.run_ask]
  simp only [handler, afterReading_eq_forDeclared goesBy]
  exact run_forDeclared declared (afterReading state)

theorem deeds_program (goesBy : Pass.desired (TargetSource.read state.source).1 = some declared) :
    Pass.deeds (Pass.program.transcript handler state) =
      (effort declared state.registry).deeds := by
  rw [Pass.program_eq, Program.transcript_ask]
  simp only [handler, afterReading_eq_forDeclared goesBy]
  exact deeds_forDeclared declared (afterReading state)

theorem added_program (goesBy : Pass.desired (TargetSource.read state.source).1 = some declared) :
    added (Pass.program.transcript handler state) =
      (Pass.fresh declared (TargetRegistry.names state.registry)).map (·.2) := by
  rw [← added_deeds, deeds_program goesBy, ← additions_effort, Effort.deeds, added_append,
    added_deletions, List.nil_append, added_additions]

/-- What a pass spawns is what it reports as added. -/
theorem spawned_program
    (goesBy : Pass.desired (TargetSource.read state.source).1 = some declared) :
    spawned (Pass.program.transcript handler state) =
      (effort declared state.registry).report.added := by
  rw [← spawned_deeds, deeds_program goesBy, Effort.deeds, spawned_append, spawned_deletions,
    List.nil_append, spawned_additions]
  rfl

omit [TargetSource σ] [TargetRegistry ρ τ] in
theorem withSummary_eq (state : Reconciler σ ρ τ) (report : Report) :
    ∃ log, state.withSummary report = { state with log := log } := by
  unfold withSummary
  split
  · exact ⟨state.log, rfl⟩
  · exact ⟨_, rfl⟩

omit [TargetSource σ] in
/-- Apart from the log, a state after a pass is told by the report and the registry. -/
theorem withEffort_eq (state : Reconciler σ ρ τ) (effort : Effort ρ) :
    ∃ log, state.withEffort effort = { state with
      registry := effort.registry
      pending := state.pending ++ effort.report.added.map (TargetRegistry.spawn ρ)
      tracker := { state.tracker with
        tokens := state.tracker.tokens + effort.report.added.length }
      metrics := { state.metrics with
        adds := state.metrics.adds.grown effort.report.added.length effort.report.failedAdds.length
        deletes := state.metrics.deletes.grown effort.report.deleted.length
          effort.report.failedDeletes.length
        pendingInits := state.metrics.pendingInits + effort.report.added.length }
      log := log } := by
  obtain ⟨log, summed⟩ := withSummary_eq ((state.withDeletions effort.deletions
    effort.registry).withAdditions effort.additions effort.registry) effort.report
  refine ⟨log, summed.trans ?_⟩
  simp only [Effort.report, List.length_map, List.map_map]
  rfl

omit [TargetSource σ] in
theorem registry_withEffort (state : Reconciler σ ρ τ) (effort : Effort ρ) :
    (state.withEffort effort).registry = effort.registry := by
  obtain ⟨log, later⟩ := state.withEffort_eq effort
  rw [later]

end Reconciler

end Telemetry
