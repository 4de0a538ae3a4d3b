import Telemetry.Proofs.Declaration.Resolved
import Telemetry.Reconcile.Together

/-!
The shape of a pass, whatever it is answered: it reads what is declared first and once, and each
target that it adds is spawned, under the name that it was added with, before the pass does anything
else to the registry.
-/

namespace Telemetry.Pass

variable {α β : Type}

/-- How far a pass has come. -/
inductive Phase where
  /-- What is declared has not been read. -/
  | unread
  | settled
  /-- A target of the name has been added, and its initialisation has not been called for. -/
  | owing (name : String)
deriving DecidableEq

/-- What can be left of a pass in a phase. -/
inductive InPhase : Phase → PassProgram α → Prop where
  | done (result : α) : InPhase .settled (.done result)
  | declared {next : Except Error TargetSet → PassProgram α}
      (rest : ∀ answer, (∀ declared, answer = .ok declared → declared.IsKeyed) →
        InPhase .settled (next answer)) : InPhase .unread (.ask .declared next)
  | live {next : List String → PassProgram α} (rest : ∀ names, InPhase .settled (next names)) :
      InPhase .settled (.ask .live next)
  | delete {name : String} {next : Except Error Unit → PassProgram α}
      (rest : ∀ answer, InPhase .settled (next answer)) :
      InPhase .settled (.ask (.delete name) next)
  | add {target : Target} {next : Except Error Unit → PassProgram α}
      (added : InPhase (.owing target.name) (next (.ok ())))
      (refused : ∀ reason, InPhase .settled (next (.error reason))) :
      InPhase .settled (.ask (.add target) next)
  | spawn {name : String} {next : Unit → PassProgram α} (rest : InPhase .settled (next ())) :
      InPhase (.owing name) (.ask (.spawn name) next)
  | count {phase : Phase} (read : phase ≠ .unread) {operation : Operation} {success : Bool}
      {next : Unit → PassProgram α} (rest : InPhase phase (next ())) :
      InPhase phase (.ask (.count operation success) next)
  | note {phase : Phase} (read : phase ≠ .unread) {entry : LogEntry} {next : Unit → PassProgram α}
      (rest : InPhase phase (next ())) : InPhase phase (.ask (.note entry) next)

theorem InPhase.bind {phase : Phase} {program : PassProgram α} {next : α → PassProgram β}
    (inPhase : InPhase phase program) (after : ∀ result, InPhase .settled (next result)) :
    InPhase phase (program.bind next) := by
  induction inPhase with
  | done result => exact after result
  | declared _ ih => exact .declared ih
  | live _ ih => exact .live ih
  | delete _ ih => exact .delete ih
  | add _ _ added refused => exact .add added refused
  | spawn _ ih => exact .spawn ih
  | count read _ ih => exact .count read ih
  | note read _ ih => exact .note read ih

theorem inPhase_deleteAll (names : List String) (report : Report) :
    InPhase .settled (deleteAll names report) := by
  induction names generalizing report with
  | nil => exact .done report
  | cons name names ih =>
      refine .delete ?_
      rintro (reason | ⟨⟩)
      · exact .count (by nofun) (.note (by nofun) (ih _))
      · exact .count (by nofun) (ih _)

theorem inPhase_addAll {targets : List (String × Target)}
    (keyed : ∀ entry ∈ targets, entry.2.name = entry.1) (report : Report) :
    InPhase .settled (addAll targets report) := by
  induction targets generalizing report with
  | nil => exact .done report
  | cons first rest ih =>
      have others := ih fun entry member => keyed entry (List.mem_cons_of_mem _ member)
      have own : first.2.name = first.1 := keyed first List.mem_cons_self
      refine .add ?_ ?_
      · rw [own]
        exact .count (by nofun) (.spawn (others _))
      · intro reason
        exact .count (by nofun) (.note (by nofun) (others _))

theorem inPhase_finish (report : Report) : InPhase .settled (finish report) := by
  unfold finish
  split
  · exact .done _
  · exact .note (by nofun) (.done _)

theorem keyed_fresh {declared : TargetSet} (keyed : declared.IsKeyed) (live : List String) :
    ∀ entry ∈ fresh declared live, entry.2.name = entry.1 :=
  fun entry member => keyed entry.1 entry.2 (NameMap.mem_entries.mp (List.mem_filter.mp member).1)

theorem inPhase_forDeclared {declared : TargetSet} (keyed : declared.IsKeyed) :
    InPhase .settled (forDeclared declared) :=
  .live fun live =>
    ((inPhase_deleteAll _ _).bind (inPhase_addAll (keyed_fresh keyed live))).bind inPhase_finish

/-- The targets that a pass goes by when it is answered so, if it goes by any. -/
def desired : Except Error TargetSet → Option TargetSet
  | .ok declared => some declared
  | .error reason => if reason.isNoTargets then some NameMap.empty else none

/-- How a pass goes on when it has read what is declared. -/
def afterReading : PassQuestion.declared.Answer → PassProgram (Option Report)
  | .ok declared => forDeclared declared
  | .error reason =>
      if reason.isNoTargets then forDeclared NameMap.empty
      else .ask (.note (unreadEntry reason)) fun _ => .done none

theorem program_eq : program = .ask .declared afterReading := by
  unfold program
  congr 1

theorem afterReading_cases (answer : Except Error TargetSet) :
    (∃ declared, desired answer = some declared ∧ afterReading answer = forDeclared declared) ∨
      (∃ reason, answer = .error reason ∧ desired answer = none ∧
        afterReading answer = .ask (.note (unreadEntry reason)) fun _ => .done none) := by
  cases answer with
  | ok declared => exact .inl ⟨declared, rfl, rfl⟩
  | error reason =>
      by_cases nothing : reason.isNoTargets = true
      · exact .inl ⟨_, by rw [desired, if_pos nothing], by rw [afterReading, if_pos nothing]⟩
      · exact .inr ⟨reason, rfl, by rw [desired, if_neg nothing],
          by rw [afterReading, if_neg nothing]⟩

/-- A pass goes by what a declaration resolves to, be there any targets or not. -/
theorem afterReading_resolved (declaration : Declaration) :
    afterReading (FileSource.resolved declaration) = forDeclared declaration.resolvedSet := by
  rcases declaration.resolved_cases with resolved | ⟨nothing, unresolved⟩
  · rw [resolved, afterReading]
  · rw [unresolved, nothing]
    rfl

theorem isKeyed_of_desired {answer : Except Error TargetSet} {declared : TargetSet}
    (keyed : ∀ declared, answer = .ok declared → declared.IsKeyed)
    (goesBy : desired answer = some declared) : declared.IsKeyed := by
  cases answer with
  | ok set =>
      cases goesBy
      exact keyed declared rfl
  | error reason =>
      simp only [desired] at goesBy
      split at goesBy
      · cases goesBy
        exact TargetSet.isKeyed_empty
      · cases goesBy

theorem inPhase_program : InPhase .unread program := by
  rw [program_eq]
  refine .declared ?_
  intro answer keyed
  rcases afterReading_cases answer with ⟨declared, goesBy, next⟩ | ⟨reason, _, _, next⟩
  · rw [next]
    exact inPhase_forDeclared (isKeyed_of_desired keyed goesBy)
  · rw [next]
    exact .note (by nofun) (.done none)

end Telemetry.Pass

namespace Telemetry.Reconciler

/-- All that is waiting at the start are passes that have not begun. -/
theorem eq_program_of_waiting {notices : List (List Notice)}
    {programs : List (PassProgram (Option Report))} {program : PassProgram (Option Report)}
    (listed : programs ∈ notices.map (·.filterMap passFor)) (waits : program ∈ programs) :
    program = Pass.program := by
  obtain ⟨own, _, rfl⟩ := List.mem_map.mp listed
  obtain ⟨notice, _, calls⟩ := List.mem_filterMap.mp waits
  unfold passFor at calls
  split at calls <;> cases calls
  rfl

end Telemetry.Reconciler

namespace Telemetry.Turns

variable {Question : Type} {Answer : Question → Type} {α σ : Type}

/-- What a participant does in one step: nothing, or it takes the lock, or it gives the lock back at
the end of its program, or it goes one question on. -/
theorem advance_cases (handler : Program.Handler Answer σ) (turns : Turns Answer α σ)
    (index : Nat) :
    turns.advance handler index = turns ∨
    (∃ program rest, turns.holder = none ∧ turns.waiting[index]? = some (program :: rest) ∧
      turns.advance handler index = { turns with
        waiting := turns.waiting.set index rest
        holder := some (index, program)
        taken := turns.taken ++ [index] }) ∨
    (∃ result, turns.holder = some (index, .done result) ∧
      turns.advance handler index = { turns with
        holder := none
        finished := turns.finished ++ [(index, result)] }) ∨
    ∃ question next, turns.holder = some (index, .ask question next) ∧
      turns.advance handler index = { turns with
        state := (handler question turns.state).2
        holder := some (index, next (handler question turns.state).1) } := by
  unfold advance
  split
  · rename_i free
    split
    · rename_i program rest standing
      exact .inr (.inl ⟨program, rest, free, standing, rfl⟩)
    · exact .inl rfl
  · rename_i owner program held
    split
    · rename_i own
      subst own
      cases program with
      | done result => exact .inr (.inr (.inl ⟨result, held, rfl⟩))
      | ask question next => exact .inr (.inr (.inr ⟨question, next, held, rfl⟩))
    · exact .inl rfl

/-- What holds of all programs that wait holds of the one that takes the lock, and of the others
still. -/
theorem forall_waiting_take {waiting : List (List (Program Answer α))}
    {property : Program Answer α → Prop} {index : Nat} {program : Program Answer α}
    {rest : List (Program Answer α)}
    (each : ∀ programs ∈ waiting, ∀ program ∈ programs, property program)
    (standing : waiting[index]? = some (program :: rest)) :
    property program ∧
      ∀ programs ∈ waiting.set index rest, ∀ program ∈ programs, property program := by
  have mine := each _ (List.mem_of_getElem? standing)
  refine ⟨mine program List.mem_cons_self, ?_⟩
  intro programs member
  rcases List.mem_or_eq_of_mem_set member with member | rfl
  · exact each programs member
  · exact fun other inRest => mine other (List.mem_cons_of_mem _ inRest)

end Telemetry.Turns
