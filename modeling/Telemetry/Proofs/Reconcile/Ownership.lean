import Mathlib.Data.List.Nodup
import Telemetry.Proofs.Reconcile.InitActs
import Telemetry.Proofs.Reconcile.Shape
import Telemetry.Proofs.Registry.Origins

/-!
Initialisations among passes. A pass spawns one initialisation for each registration that it makes,
and the number of the registration is looked up only when the initialisation begins. One that begins
after another registration has taken the place of its own marks that other one.
-/

namespace Telemetry

open Initialising (Move)

/-- What a question does to a registry with initialisations on their way. -/
def PassQuestion.move? : PassQuestion → Option Move
  | .add target => some (.add target)
  | .delete name => some (.delete name)
  | .spawn name => some (.call name)
  | _ => none

namespace History

/-- No initialisation has marked any registration but the one that it was spawned for, and no
registration has been marked by two. -/
def MarksOwn (history : History) : Prop :=
  ∀ marking ∈ history.markings, history.origin? marking.caller = some marking.generation ∧
    ∀ other ∈ history.markings, other.generation = marking.generation →
      other.caller = marking.caller

instance (history : History) : Decidable history.MarksOwn :=
  inferInstanceAs (Decidable (∀ marking ∈ history.markings, _))

/-- The initialisation began when another registration had taken the place of its own. -/
def BeginsLate (history : History) (caller : Nat) : Prop :=
  ∃ own found, history.origin? caller = some own ∧ (caller, found) ∈ history.begun ∧ own < found

variable {history : History} {registry : Registry} {tasks : List InitTask}

theorem Owns.exists_origin (owns : history.Owns registry tasks) {caller : Nat}
    (called : caller < history.origins.length) : ∃ own, history.origin? caller = some own := by
  obtain ⟨own, same, _⟩ := owns.rooted _ (List.getElem_mem called)
  exact ⟨own, by rw [origin?, List.getElem?_eq_getElem called, same]; rfl⟩

theorem Owns.eq_of_origin (owns : history.Owns registry tasks) {first second own : Nat}
    (hasFirst : history.origin? first = some own) (hasSecond : history.origin? second = some own) :
    first = second := by
  have foundFirst := Option.join_eq_some_iff.mp hasFirst
  have foundSecond := Option.join_eq_some_iff.mp hasSecond
  obtain ⟨inside, _⟩ := List.getElem?_eq_some_iff.mp foundFirst
  exact (List.getElem?_inj inside owns.apart).mp (foundFirst.trans foundSecond.symm)

/-- An initialisation marks what is not its own exactly when it begins late and is in time to mark
what it then finds. -/
theorem marksOwn_iff (sound : history.Sound registry tasks) (owns : history.Owns registry tasks) :
    history.MarksOwn ↔ ∀ caller, history.BeginsLate caller →
      ∀ marking ∈ history.markings, marking.caller ≠ caller := by
  constructor
  · rintro own caller ⟨origin, found, hasOrigin, begun, late⟩ marking member rfl
    have marked := sound.accounts.marked marking member
    have same : marking.generation = found :=
      congrArg Prod.snd (List.inj_on_of_nodup_map sound.tracks.once marked begun rfl)
    rw [(own marking member).1, same] at hasOrigin
    exact Nat.lt_irrefl _ (Option.some.inj hasOrigin ▸ late)
  · intro inTime
    have ownMark : ∀ marking ∈ history.markings,
        history.origin? marking.caller = some marking.generation := by
      intro marking member
      have begun := sound.accounts.marked marking member
      obtain ⟨own, hasOrigin⟩ := owns.exists_origin (sound.tracks.begunCalled _ begun)
      -- what it found is its own registration or a later one, and a later one it does not mark
      rcases Nat.lt_or_eq_of_le (owns.later _ begun own hasOrigin) with late | same
      · exact absurd rfl (inTime marking.caller ⟨own, _, hasOrigin, begun, late⟩ marking member)
      · rw [hasOrigin, same]
    intro marking member
    refine ⟨ownMark marking member, ?_⟩
    intro other otherMember same
    exact owns.eq_of_origin (same ▸ ownMark other otherMember) (ownMark marking member)

end History

namespace Reconciler

variable {σ : Type}

/-- What can happen while passes run over a source and a registry. -/
inductive Happening (σ : Type) where
  | advance (index : Nat)
  | init (step : InitStep)
  /-- Something else comes to be declared. -/
  | declare (source : σ)
  | shutdown

def Happening.turn : Happening σ → TurnStep (Reconciler σ Registry InitTask)
  | .advance index => .participant index
  | .init step => .outside (fun state => state.initStep step)
  | .declare source => .outside (fun state => { state with source := source })
  | .shutdown => .outside (fun state => { state with shutdown := true })

/-- Passes in turns, and the history of the initialisations that they have spawned. -/
structure Chronicle (σ : Type) where
  passes : Passes σ Registry InitTask
  history : History

namespace Chronicle

/-- Participants with notices to handle, over a registry in which nothing is registered. -/
def start (source : σ) (dialing : Dialing) (notices : List (List Notice)) : Chronicle σ :=
  ⟨Turns.start (Reconciler.start source (Registry.empty dialing))
    (notices.map (·.filterMap passFor)), History.empty⟩

def move? (chronicle : Chronicle σ) : Happening σ → Option Move
  | .advance index =>
      match chronicle.passes.holder with
      | some (owner, .ask question _) => if owner = index then question.move? else none
      | _ => none
  | .init step => some (.init step)
  | .declare _ => none
  | .shutdown => some (.signal true)

/-- The history is right, and what is left of each pass is in shape. -/
structure InShape (chronicle : Chronicle σ) : Prop where
  sound : chronicle.history.Sound chronicle.passes.state.registry chronicle.passes.state.pending
  owns : chronicle.history.Owns chronicle.passes.state.registry chronicle.passes.state.pending
  held : ∀ owner program, chronicle.passes.holder = some (owner, program) →
    ∃ phase, Pass.InPhase phase program ∧ ∀ name, phase = .owing name →
      chronicle.history.Pledged chronicle.passes.state.registry name
  waiting : ∀ programs ∈ chronicle.passes.waiting, ∀ program ∈ programs,
    Pass.InPhase .unread program

theorem start_inShape (source : σ) (dialing : Dialing) (notices : List (List Notice)) :
    (start source dialing notices).InShape where
  sound := .empty dialing
  owns := .empty _
  held := by intro owner program held; cases held
  waiting := by
    intro programs listed program waits
    rw [eq_program_of_waiting listed waits]
    exact Pass.inPhase_program

variable {chronicle : Chronicle σ}

theorem InShape.resume (inShape : chronicle.InShape) {state : Reconciler σ Registry InitTask}
    {history : History} {index : Nat} {phase : Pass.Phase} {program : PassProgram (Option Report)}
    (sound : history.Sound state.registry state.pending)
    (owns : history.Owns state.registry state.pending) (inPhase : Pass.InPhase phase program)
    (pledged : ∀ name, phase = .owing name → history.Pledged state.registry name) :
    InShape
      ⟨{ chronicle.passes with state := state, holder := some (index, program) }, history⟩ where
  sound := sound
  owns := owns
  held := by
    intro owner left isHeld
    cases isHeld
    exact ⟨phase, inPhase, pledged⟩
  waiting := inShape.waiting

variable [TargetSource σ]

def step (chronicle : Chronicle σ) (happening : Happening σ) : Chronicle σ :=
  ⟨chronicle.passes.step handler happening.turn,
    (chronicle.move? happening).elim chronicle.history
      (chronicle.history.note chronicle.passes.state.initialising)⟩

def run (chronicle : Chronicle σ) (happenings : List (Happening σ)) : Chronicle σ :=
  happenings.foldl step chronicle

/-- Keeping a history changes nothing of what happens. -/
theorem run_passes (chronicle : Chronicle σ) (happenings : List (Happening σ)) :
    (chronicle.run happenings).passes =
      chronicle.passes.run handler (happenings.map Happening.turn) := by
  induction happenings generalizing chronicle with
  | nil => rfl
  | cons first rest ih => exact ih (chronicle.step first)

theorem step_idle {happening : Happening σ} (idle : chronicle.move? happening = none) :
    chronicle.step happening =
      ⟨chronicle.passes.step handler happening.turn, chronicle.history⟩ := by
  rw [step, idle, Option.elim_none]

/-- A participant takes the lock, or stays where it is, or gives the lock back. -/
theorem InShape.advance_idle (inShape : chronicle.InShape) (index : Nat)
    (idle : ∀ owner question next, chronicle.passes.holder = some (owner, .ask question next) →
      owner ≠ index) : (chronicle.step (.advance index)).InShape := by
  have noMove : chronicle.move? (.advance index) = none := by
    simp only [move?]
    split
    · rename_i owner question next held
      exact if_neg (idle owner question next held)
    · rfl
  rw [step_idle noMove]
  change (Chronicle.mk (chronicle.passes.advance handler index) chronicle.history).InShape
  unfold Turns.advance
  split
  · split
    · rename_i program rest standing
      obtain ⟨unread, others⟩ := Turns.forall_waiting_take inShape.waiting standing
      exact {
        sound := inShape.sound
        owns := inShape.owns
        held := by
          intro owner held isHeld
          cases isHeld
          exact ⟨.unread, unread, nofun⟩
        waiting := others }
    · exact inShape
  · rename_i owner program held
    split
    · rename_i same
      cases program with
      | done result =>
          exact {
            sound := inShape.sound
            owns := inShape.owns
            held := by intro owner program isHeld; cases isHeld
            waiting := inShape.waiting }
      | ask question next => exact absurd same (idle owner question next held)
    · exact inShape

theorem step_ask {index : Nat} {question : PassQuestion}
    {next : question.Answer → PassProgram (Option Report)}
    (held : chronicle.passes.holder = some (index, .ask question next)) :
    chronicle.step (.advance index) =
      ⟨{ chronicle.passes with
          state := (handler question chronicle.passes.state).2
          holder := some (index, next (handler question chronicle.passes.state).1) },
        question.move?.elim chronicle.history
          (chronicle.history.note chronicle.passes.state.initialising)⟩ := by
  have moves : chronicle.move? (.advance index) = question.move? := by
    simp only [move?, held, if_true]
  have advanced : chronicle.passes.step handler (Happening.advance index).turn =
      { chronicle.passes with
        state := (handler question chronicle.passes.state).2
        holder := some (index, next (handler question chronicle.passes.state).1) } := by
    simp only [Turns.step, Happening.turn, Turns.advance, held, if_true]
  rw [step, moves, advanced]

theorem InShape.ask [KeyedSource σ] (inShape : chronicle.InShape) {index : Nat}
    {question : PassQuestion} {next : question.Answer → PassProgram (Option Report)}
    (held : chronicle.passes.holder = some (index, .ask question next)) :
    (chronicle.step (.advance index)).InShape := by
  obtain ⟨phase, inPhase, pledged⟩ := inShape.held index _ held
  have noDebt : ∀ {history : History} {registry : Registry} (name : String),
      .settled = Pass.Phase.owing name → history.Pledged registry name := nofun
  have sound : chronicle.history.Sound chronicle.passes.state.initialising.registry
      chronicle.passes.state.initialising.tasks := inShape.sound
  rw [step_ask held]
  cases inPhase with
  | declared rest =>
      exact inShape.resume inShape.sound inShape.owns
        (rest _ (KeyedSource.keyed chronicle.passes.state.source)) noDebt
  | live rest => exact inShape.resume inShape.sound inShape.owns (rest _) noDebt
  | @delete name _ rest =>
      exact inShape.resume (sound.note (.delete name))
        (inShape.owns.succeed (.delete chronicle.passes.state.registry name)) (rest _) noDebt
  | @add target _ added refused =>
      have after := sound.note (.add target)
      have owns := inShape.owns.succeed (.add chronicle.passes.state.registry target)
      rcases chronicle.passes.state.registry.afterwards_add_cases target with
        ⟨_, _, answer⟩ | ⟨_, reason, answer⟩
      · have asked : handler (.add target) chronicle.passes.state =
            (.ok (), { chronicle.passes.state with
              registry := chronicle.passes.state.registry.registered target }) := by
          simp only [handler, TargetRegistry.add, answer]
        rw [asked]
        rw [answer] at owns
        refine inShape.resume (asked ▸ after) owns added ?_
        rintro name owed
        cases owed
        -- the number is new, so it is above that of every registration called for so far
        refine ⟨_, by rw [Registry.generation?_registered, if_pos rfl], ?_⟩
        intro owned
        obtain ⟨own, same, below⟩ := inShape.owns.rooted _ owned
        cases same
        exact Nat.lt_irrefl _ below
      · have asked : handler (.add target) chronicle.passes.state =
            (.error reason, chronicle.passes.state) := by
          simp only [handler, TargetRegistry.add, answer]
        rw [asked]
        exact inShape.resume inShape.sound inShape.owns (refused reason) noDebt
  | @spawn name _ rest =>
      exact inShape.resume (sound.note (.call name))
        (inShape.owns.call inShape.sound.tracks inShape.sound.numbered (pledged name rfl)) rest
        noDebt
  | count _ rest => exact inShape.resume inShape.sound inShape.owns rest pledged
  | note _ rest => exact inShape.resume inShape.sound inShape.owns rest pledged

/-- Whatever happens, the shape is kept. -/
theorem InShape.step [KeyedSource σ] (inShape : chronicle.InShape) (happening : Happening σ) :
    (chronicle.step happening).InShape := by
  cases happening with
  | advance index =>
      by_cases asking : ∃ (question : PassQuestion) (next : question.Answer → _),
          chronicle.passes.holder = some (index, .ask question next)
      · obtain ⟨question, next, held⟩ := asking
        exact inShape.ask held
      · refine inShape.advance_idle index ?_
        rintro owner question next held rfl
        exact asking ⟨question, next, held⟩
  | init step =>
      have sound : chronicle.history.Sound chronicle.passes.state.initialising.registry
        chronicle.passes.state.initialising.tasks := inShape.sound
      have owns : chronicle.history.Owns chronicle.passes.state.initialising.registry
        chronicle.passes.state.initialising.tasks := inShape.owns
      have registry := chronicle.passes.state.registry_initStep step
      have pending := chronicle.passes.state.pending_initStep step
      exact {
        sound := registry.symm ▸ pending.symm ▸ sound.init step
        owns := registry.symm ▸ pending.symm ▸ owns.init sound.tracks step
        held := by
          intro owner program held
          obtain ⟨phase, inPhase, pledged⟩ := inShape.held owner program held
          refine ⟨phase, inPhase, ?_⟩
          intro name owing
          obtain ⟨generation, current, unowned⟩ := pledged name owing
          refine ⟨generation, ?_, ?_⟩
          · exact (congrArg (·.generation? name) registry).trans
              ((chronicle.passes.state.initialising.generation?_step step name).trans current)
          · exact fun owned => unowned (History.origins_note_init _ _ step ▸ owned)
        waiting := inShape.waiting }
  | declare source => exact { inShape with }
  | shutdown => exact { inShape with }

theorem run_inShape [KeyedSource σ] (source : σ) (dialing : Dialing) (notices : List (List Notice))
    (happenings : List (Happening σ)) :
    ((start source dialing notices).run happenings).InShape := by
  induction happenings using List.reverseRecOn with
  | nil => exact start_inShape source dialing notices
  | append_singleton earlier last ih =>
      rw [run, List.foldl_append]
      exact ih.step last

/-- Whatever happens, entries are what the marks of initialisations make of them; an initialisation
marks only the registration that it found when it began, which is its own or a later one. So each
registration is marked by its own initialisation alone exactly when those that begin late come too
late for any mark. -/
theorem marksOwn_iff_late_unmarking [KeyedSource σ] (source : σ) (dialing : Dialing)
    (notices : List (List Notice)) (happenings : List (Happening σ)) :
    let chronicle := (start source dialing notices).run happenings
    (∀ name entry, chronicle.passes.state.registry.entryAt? name = some entry →
      entry = marked (chronicle.history.markingsOn entry.generation)
        (Entry.start entry.target entry.generation)) ∧
    (∀ marking ∈ chronicle.history.markings,
      (marking.caller, marking.generation) ∈ chronicle.history.begun ∧
        ∃ own, chronicle.history.origin? marking.caller = some own ∧ own ≤ marking.generation) ∧
    (chronicle.history.MarksOwn ↔ ∀ caller, chronicle.history.BeginsLate caller →
      ∀ marking ∈ chronicle.history.markings, marking.caller ≠ caller) := by
  intro chronicle
  have inShape : chronicle.InShape := run_inShape source dialing notices happenings
  refine ⟨inShape.sound.accounts.applied, ?_, History.marksOwn_iff inShape.sound inShape.owns⟩
  intro marking member
  have begun := inShape.sound.accounts.marked marking member
  obtain ⟨own, hasOrigin⟩ := inShape.owns.exists_origin (inShape.sound.tracks.begunCalled _ begun)
  exact ⟨begun, own, hasOrigin, inShape.owns.later _ begun own hasOrigin⟩

/-- A target is added, deleted and added again before the first initialisation begins. -/
def replaced : Chronicle PlacedSource :=
  let declared := PlacedSource.declaring [Target.ofAddress "a" "127.0.0.1:1"]
  (start declared ⟨false, none, false⟩ [List.replicate 3 ⟨.write, "c.toml"⟩]).run
    (List.replicate 8 (.advance 0) ++ .declare (.declaring []) :: List.replicate 7 (.advance 0) ++
      .declare declared :: List.replicate 8 (.advance 0) ++
      [.init (.proceed 0), .init (.proceed 0)])

theorem replaced_late_mark :
    ¬ ∀ caller, replaced.history.BeginsLate caller →
      ∀ marking ∈ replaced.history.markings, marking.caller ≠ caller := by
  intro inTime
  have notOwn : ¬ replaced.history.MarksOwn := by decide +kernel
  exact notOwn ((marksOwn_iff_late_unmarking _ _ _ _).2.2.mpr inTime)

/-- The first initialisation marks the second registration, whose own has not begun. -/
theorem replaced_marked :
    replaced.history.origins = [some 0, some 1] ∧
      replaced.history.markings = [⟨0, 1, .connecting⟩] ∧
      replaced.passes.state.pending.getLast? = some (.spawned "a") ∧
      replaced.passes.state.registry.state? "a" = some .connecting ∧
      ¬ replaced.history.MarksOwn := by
  decide +kernel

end Chronicle

end Reconciler

end Telemetry
