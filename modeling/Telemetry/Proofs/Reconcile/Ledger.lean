import Telemetry.Proofs.Reconcile.Ownership
import Telemetry.Proofs.Reconcile.Tenure

/-!
Live targets among passes and initialisations. As long as a name is declared, its target keeps the
descriptor and the registration that it was added with, and nothing but initialisations touches it.
-/

namespace Telemetry.Reconciler

variable {σ : Type}

def Happening.isInit : Happening σ → Bool
  | .init _ => true
  | _ => false

/-- All that has become of the target of a name are marks that initialisations have made on it, no
more than counted, and no initialisation of it has been begun. -/
structure OnlyMarked (name : String) (count : Nat) (before after : Reconciler σ Registry InitTask) :
    Prop where
  entry : ∃ marks : List Mark, marks.length ≤ count ∧ after.registry.entryAt? name =
    (before.registry.entryAt? name).map (marks.foldl (fun entry mark => mark.apply entry))
  spawned : after.pending.count (.spawned name) ≤ before.pending.count (.spawned name)

namespace OnlyMarked

variable {name : String} {count more : Nat} {before middle after : Reconciler σ Registry InitTask}

theorem of_eq (sameEntry : after.registry.entryAt? name = before.registry.entryAt? name)
    (sameCount : after.pending.count (.spawned name) = before.pending.count (.spawned name)) :
    OnlyMarked name 0 before after :=
  ⟨⟨[], Nat.le_refl _, by simp [sameEntry]⟩, Nat.le_of_eq sameCount⟩

theorem trans (first : OnlyMarked name count before middle)
    (second : OnlyMarked name more middle after) :
    OnlyMarked name (count + more) before after where
  entry := by
    obtain ⟨marks, few, made⟩ := first.entry
    obtain ⟨others, fewOthers, madeSince⟩ := second.entry
    refine ⟨marks ++ others, ?_, ?_⟩
    · rw [List.length_append]
      exact Nat.add_le_add few fewOthers
    · rw [madeSince, made, Option.map_map]
      exact congrArg (Option.map · _) (funext fun entry => List.foldl_append.symm)
  spawned := Nat.le_trans second.spawned first.spawned

/-- A step of an initialisation marks one registration at most. -/
theorem init (state : Reconciler σ Registry InitTask) (step : InitStep) (name : String) :
    OnlyMarked name 1 state (state.initStep step) where
  entry := by
    rw [registry_initStep]
    rcases state.initialising.entryAt?_step step name with same | ⟨mark, marked⟩
    · exact ⟨[], Nat.zero_le _, same.trans (by simp [initialising])⟩
    · exact ⟨[mark], Nat.le_refl _, marked⟩
  spawned := by
    rw [pending_initStep]
    exact state.initialising.count_spawned_step step name

variable [TargetSource σ] {question : PassQuestion}

/-- A question that is not about a target leaves it alone. -/
theorem ask (spares : question.Spares name) (state : Reconciler σ Registry InitTask) :
    OnlyMarked name 0 state (handler question state).2 := by
  cases question with
  | declared => exact .of_eq rfl rfl
  | live => exact .of_eq rfl rfl
  | delete other =>
      refine .of_eq ?_ rfl
      change (state.registry.afterwards (state.registry.delete other)).2.entryAt? name = _
      rcases state.registry.afterwards_delete_cases other with ⟨_, answer⟩ | ⟨_, _, answer⟩
      · rw [answer, Registry.entryAt?_unregistered, if_neg spares]
      · rw [answer]
  | add target =>
      refine .of_eq ?_ rfl
      change (state.registry.afterwards (state.registry.add target)).2.entryAt? name = _
      rcases state.registry.afterwards_add_cases target with ⟨_, _, answer⟩ | ⟨_, _, answer⟩
      · rw [answer, Registry.entryAt?_registered, if_neg spares]
      · rw [answer]
  | spawn other =>
      refine .of_eq rfl ?_
      have notIt : InitTask.spawned other ≠ .spawned name :=
        fun same => spares (InitTask.spawned.inj same).symm
      change (state.pending ++ [InitTask.spawned other]).count _ = _
      rw [List.count_append, List.count_singleton, if_neg (by simpa using notIt), Nat.add_zero]
  | count operation success => exact .of_eq rfl rfl
  | note entry => exact .of_eq rfl rfl

end OnlyMarked

/-- Passes in turns, and what is written down of those that have taken the lock, last one first. -/
structure Ledger (σ : Type) where
  passes : Passes σ Registry InitTask
  records : List PassRecord

namespace Ledger

/-- Participants with notices to handle, over a registry in which nothing is registered. -/
def start (source : σ) (dialing : Dialing) (notices : List (List Notice)) : Ledger σ :=
  ⟨Turns.start (Reconciler.start source (Registry.empty dialing))
    (notices.map (·.filterMap passFor)), []⟩

/-- The ledger is right about what is registered, and each pass is what it can be. -/
structure InOrder (ledger : Ledger σ) : Prop where
  free : ledger.passes.holder = none → ∀ name,
    ledger.passes.state.registry.target? name = tenure? name ledger.records
  held : ∀ owner program, ledger.passes.holder = some (owner, program) →
    ∃ record earlier, ledger.records = record :: earlier ∧
      UnderWay ledger.passes.state.registry earlier record program
  waiting : ∀ programs ∈ ledger.passes.waiting, ∀ program ∈ programs, program = Pass.program

theorem start_inOrder (source : σ) (dialing : Dialing) (notices : List (List Notice)) :
    (start source dialing notices).InOrder where
  free := fun _ _ => rfl
  held := nofun
  waiting := fun _ listed _ waits => eq_program_of_waiting listed waits

variable {ledger : Ledger σ}

/-- What happens beside the passes leaves the registered descriptors as they are. -/
theorem InOrder.beside (inOrder : ledger.InOrder) {state : Reconciler σ Registry InitTask}
    (same : ∀ name, state.registry.target? name = ledger.passes.state.registry.target? name) :
    InOrder ⟨{ ledger.passes with state := state }, ledger.records⟩ where
  free := fun free name => (same name).trans (inOrder.free free name)
  held := by
    intro owner program held
    obtain ⟨record, earlier, written, underWay⟩ := inOrder.held owner program held
    exact ⟨record, earlier, written, underWay.congr same⟩
  waiting := inOrder.waiting

variable [TargetSource σ]

/-- What is written down when a participant goes on: a new pass, or what a question is answered. -/
def written (ledger : Ledger σ) (index : Nat) : List PassRecord :=
  match ledger.passes.holder with
  | none =>
      match ledger.passes.waiting[index]? with
      | some (_ :: _) => .opened ledger.passes.state.registry.names :: ledger.records
      | _ => ledger.records
  | some (owner, .ask question _) =>
      if owner = index then
        ledger.records.modifyHead
          (·.note question (handler question ledger.passes.state).1)
      else ledger.records
  | some (_, .done _) => ledger.records

def step (ledger : Ledger σ) (happening : Happening σ) : Ledger σ :=
  ⟨ledger.passes.step handler happening.turn,
    match happening with
    | .advance index => ledger.written index
    | _ => ledger.records⟩

def run (ledger : Ledger σ) (happenings : List (Happening σ)) : Ledger σ :=
  happenings.foldl step ledger

/-- Keeping a ledger changes nothing of what happens. -/
theorem run_passes (ledger : Ledger σ) (happenings : List (Happening σ)) :
    (ledger.run happenings).passes =
      ledger.passes.run handler (happenings.map Happening.turn) := by
  induction happenings generalizing ledger with
  | nil => rfl
  | cons first rest ih => exact ih (ledger.step first)

theorem step_ask {index : Nat} {question : PassQuestion}
    {next : question.Answer → PassProgram (Option Report)}
    (held : ledger.passes.holder = some (index, .ask question next)) :
    ledger.step (.advance index) =
      ⟨{ ledger.passes with
          state := (handler question ledger.passes.state).2
          holder := some (index, next (handler question ledger.passes.state).1) },
        ledger.records.modifyHead
          (·.note question (handler question ledger.passes.state).1)⟩ := by
  simp only [step, written, Turns.step, Happening.turn, Turns.advance, held, if_true]

theorem step_take {index : Nat} {program : PassProgram (Option Report)}
    {rest : List (PassProgram (Option Report))} (free : ledger.passes.holder = none)
    (standing : ledger.passes.waiting[index]? = some (program :: rest)) :
    ledger.step (.advance index) =
      ⟨{ ledger.passes with
          waiting := ledger.passes.waiting.set index rest
          holder := some (index, program)
          taken := ledger.passes.taken ++ [index] },
        .opened ledger.passes.state.registry.names :: ledger.records⟩ := by
  simp only [step, written, Turns.step, Happening.turn, Turns.advance, free, standing]

theorem step_done {index : Nat} {result : Option Report}
    (held : ledger.passes.holder = some (index, .done result)) :
    ledger.step (.advance index) =
      ⟨{ ledger.passes with
          holder := none
          finished := ledger.passes.finished ++ [(index, result)] }, ledger.records⟩ := by
  simp only [step, written, Turns.step, Happening.turn, Turns.advance, held, if_true]

/-- A participant stays where it is, or takes the lock, or gives it back, or goes one question
on. -/
theorem advance_cases (ledger : Ledger σ) (index : Nat) :
    ledger.step (.advance index) = ledger ∨
      (∃ program rest, ledger.passes.holder = none ∧
        ledger.passes.waiting[index]? = some (program :: rest)) ∨
      (∃ result, ledger.passes.holder = some (index, .done result)) ∨
      ∃ question next, ledger.passes.holder = some (index, .ask question next) := by
  cases held : ledger.passes.holder with
  | none =>
      cases standing : ledger.passes.waiting[index]? with
      | none =>
          refine .inl ?_
          simp only [step, written, Turns.step, Happening.turn, Turns.advance, held, standing]
      | some programs =>
          cases programs with
          | nil =>
              refine .inl ?_
              simp only [step, written, Turns.step, Happening.turn, Turns.advance, held, standing]
          | cons program rest => exact .inr (.inl ⟨program, rest, rfl, rfl⟩)
  | some holding =>
      obtain ⟨owner, program⟩ := holding
      by_cases own : owner = index
      · subst own
        cases program with
        | done result => exact .inr (.inr (.inl ⟨result, rfl⟩))
        | ask question next => exact .inr (.inr (.inr ⟨question, next, rfl⟩))
      · refine .inl ?_
        cases program with
        | done result =>
            simp only [step, written, Turns.step, Happening.turn, Turns.advance, held, if_neg own]
        | ask question next =>
            simp only [step, written, Turns.step, Happening.turn, Turns.advance, held, if_neg own]

theorem InOrder.advance [KeyedSource σ] (inOrder : ledger.InOrder) (index : Nat) :
    (ledger.step (.advance index)).InOrder := by
  rcases ledger.advance_cases index with
    same | ⟨program, rest, free, standing⟩ | ⟨result, held⟩ | ⟨question, next, held⟩
  · rw [same]
    exact inOrder
  · obtain ⟨begins, others⟩ := Turns.forall_waiting_take inOrder.waiting standing
    rw [step_take free standing]
    exact {
      free := nofun
      held := by
        intro owner holding held
        cases held
        exact ⟨_, _, rfl, .unread begins (fun _ live => live) (inOrder.free free)⟩
      waiting := others }
  · obtain ⟨record, earlier, written, underWay⟩ := inOrder.held index _ held
    rw [step_done held]
    exact {
      free := fun _ => written ▸ underWay.ended
      held := nofun
      waiting := inOrder.waiting }
  · obtain ⟨record, earlier, written, underWay⟩ := inOrder.held index _ held
    rw [step_ask held, written, List.modifyHead_cons]
    exact {
      free := nofun
      held := by
        intro owner holding held
        cases held
        exact ⟨_, _, rfl, underWay.ask⟩
      waiting := inOrder.waiting }

theorem InOrder.step [KeyedSource σ] (inOrder : ledger.InOrder) (happening : Happening σ) :
    (ledger.step happening).InOrder := by
  cases happening with
  | advance index => exact inOrder.advance index
  | init step =>
      refine inOrder.beside fun name => ?_
      rw [registry_initStep]
      exact ledger.passes.state.initialising.target?_step step name
  | declare source => exact inOrder.beside fun _ => rfl
  | shutdown => exact inOrder.beside fun _ => rfl

theorem length_records_step (ledger : Ledger σ) (happening : Happening σ) :
    ledger.records.length ≤ (ledger.step happening).records.length := by
  cases happening with
  | advance index =>
      rcases ledger.advance_cases index with
        same | ⟨program, rest, free, standing⟩ | ⟨result, held⟩ | ⟨question, next, held⟩
      · exact Nat.le_of_eq (by rw [same])
      · rw [step_take free standing]
        exact Nat.le_succ _
      · exact Nat.le_of_eq (by rw [step_done held])
      · exact Nat.le_of_eq (by rw [step_ask held, List.length_modifyHead])
  | init step => exact Nat.le_refl _
  | declare source => exact Nat.le_refl _
  | shutdown => exact Nat.le_refl _

theorem length_records_run (ledger : Ledger σ) (happenings : List (Happening σ)) :
    ledger.records.length ≤ (ledger.run happenings).records.length := by
  induction happenings generalizing ledger with
  | nil => exact Nat.le_refl _
  | cons first rest ih => exact Nat.le_trans (ledger.length_records_step first) (ih _)

/-- As long as no other pass takes the lock, all that happens to a target is what initialisations
do to it, if it was live when the pass began and the pass does not find it undeclared. -/
theorem InOrder.step_marked (inOrder : ledger.InOrder) {happening : Happening σ}
    (alone : (ledger.step happening).records.length = ledger.records.length)
    {record : PassRecord} (written : record ∈ (ledger.step happening).records.head?)
    {name : String} (live : name ∈ record.found) (keeps : record.Keeps name) :
    (∃ former ∈ ledger.records.head?, name ∈ former.found ∧ former.Keeps name) ∧
      OnlyMarked name (if happening.isInit then 1 else 0) ledger.passes.state
        (ledger.step happening).passes.state := by
  cases happening with
  | advance index =>
      rcases ledger.advance_cases index with
        same | ⟨program, rest, free, standing⟩ | ⟨result, held⟩ | ⟨question, next, held⟩
      · rw [same] at written ⊢
        exact ⟨⟨record, written, live, keeps⟩, .of_eq rfl rfl⟩
      · rw [step_take free standing] at alone
        exact absurd alone (Nat.succ_ne_self _)
      · rw [step_done held] at written ⊢
        exact ⟨⟨record, written, live, keeps⟩, .of_eq rfl rfl⟩
      · obtain ⟨former, earlier, isWritten, underWay⟩ := inOrder.held index _ held
        rw [step_ask held, isWritten] at written
        cases written
        have isLive : name ∈ former.found := by rwa [PassRecord.found_note] at live
        have kept := underWay.keeps_of_note keeps
        rw [step_ask held]
        refine ⟨⟨former, ?_, isLive, kept⟩, .ask (underWay.spares isLive kept) _⟩
        rw [isWritten]
        rfl
  | init step => exact ⟨⟨record, written, live, keeps⟩, .init _ step name⟩
  | declare source => exact ⟨⟨record, written, live, keeps⟩, .of_eq rfl rfl⟩
  | shutdown => exact ⟨⟨record, written, live, keeps⟩, .of_eq rfl rfl⟩

theorem InOrder.run [KeyedSource σ] (inOrder : ledger.InOrder) (happenings : List (Happening σ)) :
    (ledger.run happenings).InOrder := by
  induction happenings generalizing ledger with
  | nil => exact inOrder
  | cons first rest ih => exact ih (inOrder.step first)

theorem InOrder.run_marked [KeyedSource σ] (inOrder : ledger.InOrder)
    (happenings : List (Happening σ))
    (alone : (ledger.run happenings).records.length = ledger.records.length)
    {record : PassRecord} (written : record ∈ (ledger.run happenings).records.head?)
    {name : String} (live : name ∈ record.found) (keeps : record.Keeps name) :
    OnlyMarked name (happenings.countP Happening.isInit) ledger.passes.state
      (ledger.run happenings).passes.state := by
  -- from the end: that the name is declared is known of the record as it is last
  induction happenings using List.reverseRecOn generalizing record with
  | nil => exact .of_eq rfl rfl
  | append_singleton earlier last ih =>
      have lastly : ledger.run (earlier ++ [last]) = (ledger.run earlier).step last :=
        List.foldl_append
      rw [lastly] at alone written ⊢
      have before := ledger.length_records_run earlier
      have since := (ledger.run earlier).length_records_step last
      obtain ⟨⟨former, isWritten, isLive, kept⟩, marked⟩ :=
        (inOrder.run earlier).step_marked (by omega) written live keeps
      have made := (ih (by omega) isWritten isLive kept).trans marked
      rwa [List.countP_append, List.countP_singleton]

/-- Whatever happens, the descriptors that are registered while no pass is under way are those that
were declared for their names in the passes that last added them, and every pass since that could
read what is declared has found them declared. From one moment of a pass to a later one, all that
happens to a target that was live when the pass began, and that it does not find undeclared, is that
initialisations mark it. -/
theorem live_target_keeps_descriptor [KeyedSource σ] (source : σ) (dialing : Dialing)
    (notices : List (List Notice)) (happenings : List (Happening σ)) :
    let ledger := (start source dialing notices).run happenings
    (ledger.passes.holder = none → ∀ name target,
      ledger.passes.state.registry.target? name = some target ↔
        ∃ later record earlier, ledger.records = later ++ record :: earlier ∧
          name ∈ record.added ∧ record.declared? name = some target ∧
          ∀ one ∈ later, name ∉ one.added ∧ one.Keeps name) ∧
    ∀ during, let later := ledger.run during
      later.records.length = ledger.records.length →
        ∀ record ∈ later.records.head?, ∀ name ∈ record.found, record.Keeps name →
          OnlyMarked name (during.countP Happening.isInit) ledger.passes.state
            later.passes.state := by
  intro ledger
  have inOrder : ledger.InOrder := (start_inOrder source dialing notices).run happenings
  constructor
  · intro free name target
    rw [inOrder.free free name, tenure?_eq_some_iff]
  · intro during later alone record written name live keeps
    exact inOrder.run_marked during alone written live keeps

/-- A target is added, and declared with another address when the next pass has begun. -/
def readdressing : List (Happening PlacedSource) :=
  List.replicate 9 (.advance 0) ++
    [.declare (.declaring [Target.ofAddress "a" "127.0.0.1:2"]), .advance 0]

/-- That pass goes on while the target is being initialised. -/
def initialised : List (Happening PlacedSource) :=
  [.init (.proceed 0), .advance 0, .init (.proceed 0), .advance 0]

/-- And then what is declared cannot be read. -/
def unreadable : List (Happening PlacedSource) :=
  .declare ⟨⟨some "c.toml", Declaration.default⟩, ⟨Files.Tree.empty [], []⟩⟩ ::
    List.replicate 4 (.advance 0)

theorem readdressed_keeps_descriptor :
    let target := Target.ofAddress "a" "127.0.0.1:1"
    let begun := start (.declaring [target]) ⟨false, none, false⟩
      [List.replicate 3 ⟨.write, "c.toml"⟩]
    let read := begun.run readdressing
    let ended := begun.run (readdressing ++ initialised ++ unreadable)
    OnlyMarked "a" 2 read.passes.state (read.run initialised).passes.state ∧
      ended.passes.finished.length = 3 ∧
      ∃ later record earlier, ended.records = later ++ record :: earlier ∧
        "a" ∈ record.added ∧
        record.declared? "a" = some (target.resolve "a" Declaration.default.settings) ∧
        ∀ one ∈ later, "a" ∉ one.added ∧ one.Keeps "a" := by
  intro target begun read ended
  have throughout := (live_target_keeps_descriptor (.declaring [target]) ⟨false, none, false⟩
    [List.replicate 3 ⟨.write, "c.toml"⟩] readdressing).2 initialised
  have between := (live_target_keeps_descriptor (.declaring [target]) ⟨false, none, false⟩
    [List.replicate 3 ⟨.write, "c.toml"⟩] (readdressing ++ initialised ++ unreadable)).1
  have free : ended.passes.holder.isNone = true := by decide +kernel
  have registered : ended.passes.state.registry.target? "a" =
      some (target.resolve "a" Declaration.default.settings) := by decide +kernel
  have known : (read.run initialised).records.head?.any
      (fun record => decide ("a" ∈ record.found ∧ record.Keeps "a")) = true := by decide +kernel
  obtain ⟨record, written, isKept⟩ := (Option.any_eq_true _ _).mp known
  obtain ⟨live, keeps⟩ := of_decide_eq_true isKept
  refine ⟨throughout (by decide +kernel) record written "a" live keeps, by decide +kernel, ?_⟩
  exact (between (Option.isNone_iff_eq_none.mp free) "a" _).mp registered

end Ledger

end Telemetry.Reconciler
