import Telemetry.Proofs.Notice.Delivery
import Telemetry.Proofs.Service.Rewriting

/-!
A watcher that keeps up with its file: the invariant of one watcher, the reports on their way to it
and the world that its passes read, under all that can happen from the moment the file is watched.
-/

namespace Telemetry

open Program (AsksOnly Ensures)
open Reconciler (Alike Journal)

variable {world now seen : World} {path : String} {lookup : Lookup} {α : Type}
  {state later : Reconciler PlacedSource Registry InitTask}

/-- The source reads from a fit file. -/
structure Reconciler.Placed (world : World) (path : String)
    (state : Reconciler PlacedSource Registry InitTask) : Prop where
  named : state.source.source.path = some path
  suits : world.Suits path state.source.world

/-- What was read last was read from a world. -/
def Reconciler.ReadFrom (seen : World) (path : String)
    (state : Reconciler PlacedSource Registry InitTask) : Prop :=
  Declaration.checked (Declaration.ofFile seen path) = .ok state.current

/-- A pass that has read the file in a world, and that goes by it. -/
structure Reconciler.Underway (seen : World) (path : String) (program : PassProgram α)
    (state : Reconciler PlacedSource Registry InitTask) : Prop where
  settled : AsksOnly Pass.IsSettled program
  readFrom : state.ReadFrom seen path
  aligns : Ensures Reconciler.handler Alike
    (fun _ later => later.InLine ∧ later.current = state.current) program state

namespace Reconciler

theorem ReadFrom.alike (readFrom : state.ReadFrom seen path) (alike : Alike state later) :
    later.ReadFrom seen path := by
  rw [ReadFrom, alike.current]
  exact readFrom

theorem names_eq (readFrom : state.ReadFrom seen path) :
    state.current.targets.names = seen.declaredNames path := by
  rw [World.declaredNames, readFrom]
  rfl

namespace Underway

variable {program : PassProgram α}

theorem alike (underway : Underway seen path program state) (alike : Alike state later) :
    Underway seen path program later where
  settled := underway.settled
  readFrom := underway.readFrom.alike alike
  aligns := by
    rw [alike.current]
    exact alike.ensures underway.aligns

theorem ask {question : PassQuestion} {next : question.Answer → PassProgram α}
    (underway : Underway seen path (.ask question next) state) :
    Underway seen path (next (handler question state).1) (handler question state).2 where
  settled := underway.settled.2 _
  readFrom := by
    rw [ReadFrom, current, source_settled underway.settled.1]
    exact underway.readFrom
  aligns := by
    rw [current, source_settled underway.settled.1]
    exact underway.aligns state (.refl state)

theorem inLine {result : α} (underway : Underway seen path (.done result) state) : state.InLine :=
  (underway.aligns state (.refl state)).1

end Underway

theorem Placed.in_world (placed : state.Placed world path) (suits : world.Suits path now) :
    (state.withSource { state.source with world := now }).Placed world path :=
  ⟨placed.named, suits⟩

theorem Placed.steady (placed : state.Placed world path) (steady : Steady state later) :
    later.Placed world path :=
  ⟨by rw [steady.source]; exact placed.named, by rw [steady.source]; exact placed.suits⟩

theorem Placed.ask {question : PassQuestion} (settled : Pass.IsSettled question)
    (placed : state.Placed world path) : (handler question state).2.Placed world path := by
  have same := source_settled settled state
  exact ⟨by rw [same]; exact placed.named, by rw [same]; exact placed.suits⟩

/-- A pass that reads the file goes by what the file declares then. -/
theorem Placed.read (placed : state.Placed world path) :
    (handler .declared state).2.Placed world path ∧
      Underway state.source.world path (Pass.afterReading (handler .declared state).1)
        (handler .declared state).2 := by
  obtain ⟨declaration, usable, dialable⟩ := placed.suits.fit
  have reads : state.source.source.read state.source.world =
      (FileSource.resolved declaration, { state.source.source with current := declaration }) :=
    FileSource.read_of_usable placed.named usable
  have asked : handler .declared state = (FileSource.resolved declaration,
      { state with source :=
          ⟨{ state.source.source with current := declaration }, state.source.world⟩ }) := by
    simp only [handler, TargetSource.read, reads]
    rfl
  rw [asked]
  refine ⟨⟨placed.named, placed.suits⟩, Pass.afterReading_settled _, usable, ?_⟩
  rw [Pass.afterReading_resolved]
  exact forDeclared_aligns dialable

/-- The world of the last reading, which was in the world of the first pass if there was none
since. -/
def Journal.lastWorld (journal : Journal PlacedSource Registry InitTask) (first : World) : World :=
  match journal.readings.getLast? with
  | some last => last.source.world
  | none => first

theorem Journal.lastWorld_of_unread {journal : Journal PlacedSource Registry InitTask}
    (unread : journal.readings = []) (first : World) : journal.lastWorld first = first := by
  rw [lastWorld, unread]
  rfl

end Reconciler

namespace Startup

open Reconciler (Placed ReadFrom Underway JournalStep)

variable {first : World} {reports : List (Nat × Notice)}
  {journal after : Journal PlacedSource Registry InitTask}

theorem reportsOf_eq (finds : now.Finds path lookup) (kind : FileEventKind) :
    reportsOf [lookup.watch] now path kind =
      if lookup.direct then [(0, ⟨NoticeKind.ofFileEvent kind, lookup.found⟩)] else [] := by
  simp only [reportsOf, finds.finds, List.zipIdx_cons, List.zipIdx_nil, List.filterMap_cons,
    List.filterMap_nil, finds.noticed]
  cases lookup.direct <;> rfl

/-- The watcher keeps up: what it has been told of is read or will be, and what was read is what the
registry is in line with. -/
structure KeepsUp (world : World) (path : String) (lookup : Lookup) (first : World)
    (reports : List (Nat × Notice)) (journal : Journal PlacedSource Registry InitTask) : Prop where
  faithful : journal.Faithful
  single : journal.watched.watchers.length = 1
  placed : journal.watched.state.Placed world path
  free : journal.watched.holder = none →
    journal.watched.state.ReadFrom (journal.lastWorld first) path ∧ journal.watched.state.InLine
  held : ∀ owner program, journal.watched.holder = some (owner, program) →
    program = Pass.program ∨
      Underway (journal.lastWorld first) path program journal.watched.state
  recent : ∀ last, journal.readings.getLast? = some last →
    last.rewritings = journal.rewritings → last.source.world = journal.watched.state.source.world
  reported : ∀ report ∈ reports, report.1 = 0 ∧ lookup.direct = true
  sent : ∀ sending ∈ journal.sent, sending.watcher = 0 ∧ lookup.direct = true
  noticed : lookup.direct = true → 0 < journal.rewritings →
    (∃ report ∈ reports, report.2.kind.triggersPass = true) ∨
      ∃ sending ∈ journal.sent, sending.notice.kind.triggersPass = true ∧
        sending.rewritings = journal.rewritings

namespace KeepsUp

theorem begin (placed : state.Placed world path) (readFrom : state.ReadFrom first path)
    (inLine : state.InLine) :
    KeepsUp world path lookup first []
      (Journal.begin ⟨state, none, [Watcher.start], false, []⟩) where
  faithful := Journal.start_faithful state 1
  single := rfl
  placed := placed
  free := fun _ => ⟨readFrom, inLine⟩
  held := nofun
  recent := fun _ found => by cases found
  reported := nofun
  sent := nofun
  noticed := fun _ rewritten => absurd rewritten (Nat.lt_irrefl 0)

/-- Only who holds the lock changes, or what the watchers have in hand. -/
theorem rearranged (keeps : KeepsUp world path lookup first reports journal)
    (faithful : after.Faithful)
    (single : after.watched.watchers.length = journal.watched.watchers.length)
    (state : after.watched.state = journal.watched.state)
    (holder : after.watched.holder = journal.watched.holder ∨
      ∃ owner, after.watched.holder = some (owner, Pass.program))
    (sent : after.sent = journal.sent) (rewritings : after.rewritings = journal.rewritings)
    (readings : after.readings = journal.readings) :
    KeepsUp world path lookup first reports after where
  faithful := faithful
  single := single.trans keeps.single
  placed := by
    rw [state]
    exact keeps.placed
  free := by
    intro isFree
    rcases holder with same | ⟨owner, taken⟩
    · rw [same] at isFree
      rw [state, Journal.lastWorld, readings]
      exact keeps.free isFree
    · rw [taken] at isFree
      cases isFree
  held := by
    intro owner program isHeld
    rcases holder with same | ⟨owner, taken⟩
    · rw [same] at isHeld
      rw [state, Journal.lastWorld, readings]
      exact keeps.held owner program isHeld
    · rw [taken] at isHeld
      cases isHeld
      exact .inl rfl
  recent := by
    rw [readings, rewritings, state]
    exact keeps.recent
  reported := keeps.reported
  sent := by
    rw [sent]
    exact keeps.sent
  noticed := by
    rw [sent, rewritings]
    exact keeps.noticed

theorem advance (keeps : KeepsUp world path lookup first reports journal) {index : Nat}
    (advanced : journal.Advanced index after) :
    KeepsUp world path lookup first reports after := by
  have faithful := keeps.faithful.advance advanced
  cases advanced with
  | rest => exact keeps
  | leave => exact keeps.rearranged faithful List.length_set rfl (.inl rfl) rfl rfl rfl
  | take => exact keeps.rearranged faithful List.length_set rfl (.inl rfl) rfl rfl rfl
  | skip => exact keeps.rearranged faithful List.length_set rfl (.inl rfl) rfl rfl rfl
  | lock => exact keeps.rearranged faithful rfl rfl (.inr ⟨_, rfl⟩) rfl rfl rfl
  | @finish watcher notice result standing busy held =>
      rcases keeps.held index _ held with unread | underway
      · rw [Pass.program_eq] at unread
        cases unread
      · exact {
          faithful := faithful
          single := List.length_set.trans keeps.single
          placed := keeps.placed
          free := fun _ => ⟨underway.readFrom, underway.inLine⟩
          held := nofun
          recent := keeps.recent
          reported := keeps.reported
          sent := keeps.sent
          noticed := keeps.noticed }
  | @read next held =>
      have unread : Program.ask .declared next = Pass.program :=
        (keeps.held index _ held).resolve_right fun underway => underway.settled.1 rfl
      rw [Pass.program_eq] at unread
      cases unread
      obtain ⟨placed, underway⟩ := keeps.placed.read
      let reading : Reconciler.Reading PlacedSource :=
        ⟨journal.watched.state.source, journal.rewritings⟩
      have isLast : (journal.readings ++ [reading]).getLast? = some reading :=
        List.getLast?_concat
      exact {
        faithful := faithful
        single := keeps.single
        placed := placed
        free := nofun
        held := by
          intro owner program isHeld
          cases isHeld
          rw [Journal.lastWorld, isLast]
          exact .inr underway
        recent := by
          intro last found _
          rw [isLast] at found
          cases found
          rfl
        reported := keeps.reported
        sent := keeps.sent
        noticed := keeps.noticed }
  | @ask question next settled held =>
      have underway := (keeps.held index _ held).resolve_left
        (Journal.ne_program_of_settled settled next)
      have sameSource := Reconciler.source_settled settled journal.watched.state
      exact {
        faithful := faithful
        single := keeps.single
        placed := keeps.placed.ask settled
        free := nofun
        held := by
          intro owner program isHeld
          cases isHeld
          exact .inr underway.ask
        recent := by
          intro last found same
          rw [sameSource]
          exact keeps.recent last found same
        reported := keeps.reported
        sent := keeps.sent
        noticed := keeps.noticed }

/-- The world changes, with a report if it is by rewriting, or something happens beside. -/
theorem changed (keeps : KeepsUp world path lookup first reports journal)
    (alike : Alike journal.watched.state state) (placed : state.Placed world path)
    {shutdown : Bool} (stays : journal.watched.shutdown = true → shutdown = true)
    {rewritings : Nat} (onwards : journal.rewritings ≤ rewritings)
    (sameWorld : rewritings = journal.rewritings →
      state.source.world = journal.watched.state.source.world)
    {more : List (Nat × Notice)}
    (reported : ∀ report ∈ more, report.1 = 0 ∧ lookup.direct = true)
    (noticed : lookup.direct = true → journal.rewritings < rewritings →
      ∃ report ∈ more, report.2.kind.triggersPass = true) :
    KeepsUp world path lookup first (reports ++ more) { journal with
      watched := { journal.watched with state := state, shutdown := shutdown }
      rewritings := rewritings } where
  faithful := keeps.faithful.elsewhere state stays onwards
  single := keeps.single
  placed := placed
  free := by
    intro isFree
    obtain ⟨readFrom, inLine⟩ := keeps.free isFree
    exact ⟨readFrom.alike alike, alike.inLine inLine⟩
  held := by
    intro owner program isHeld
    exact (keeps.held owner program isHeld).imp_right fun underway => underway.alike alike
  recent := by
    intro last found same
    -- A reading that knows of all rewritings was made after the last of them.
    have known := keeps.faithful.read last (List.mem_of_getLast? found)
    have unchanged : rewritings = journal.rewritings := by
      change last.rewritings = rewritings at same
      omega
    exact (keeps.recent last found (same.trans unchanged)).trans (sameWorld unchanged).symm
  reported := by
    intro report member
    rcases List.mem_append.mp member with earlier | new
    · exact keeps.reported report earlier
    · exact reported report new
  sent := keeps.sent
  noticed := by
    intro direct rewritten
    by_cases again : journal.rewritings < rewritings
    · obtain ⟨report, member, triggers⟩ := noticed direct again
      exact .inl ⟨report, List.mem_append_right _ member, triggers⟩
    · have same : journal.rewritings = rewritings := Nat.le_antisymm onwards (Nat.not_lt.mp again)
      subst same
      rcases keeps.noticed direct rewritten with ⟨report, member, triggers⟩ | wasSent
      · exact .inl ⟨report, List.mem_append_left _ member, triggers⟩
      · exact .inr wasSent

theorem report (keeps : KeepsUp world path lookup first reports journal)
    (finds : world.Finds path lookup) (kind : FileEventKind) :
    KeepsUp world path lookup first
      (reports ++ reportsOf [lookup.watch] journal.watched.state.source.world path kind)
      journal := by
  rw [reportsOf_eq (keeps.placed.suits.finds finds)]
  refine keeps.changed (.refl _) keeps.placed id (Nat.le_refl _) (fun _ => rfl) ?_
    fun _ again => absurd again (Nat.lt_irrefl _)
  cases direct : lookup.direct with
  | false => exact nofun
  | true =>
      intro report member
      cases List.mem_singleton.mp member
      exact ⟨rfl, rfl⟩

theorem rewrite (keeps : KeepsUp world path lookup first reports journal)
    (finds : world.Finds path lookup) {content : List UInt8} {kind : FileEventKind}
    (fit : (world.rewritten path content).IsFit path)
    (triggers : (NoticeKind.ofFileEvent kind).triggersPass = true) :
    KeepsUp world path lookup first
      (reports ++ reportsOf [lookup.watch]
        (journal.watched.state.source.world.rewritten path content) path kind)
      (journal.step (.rewrite (rewriteIn path content))) := by
  have suits := keeps.placed.suits.rewritten finds fit
  rw [reportsOf_eq (suits.finds finds)]
  refine keeps.changed (.in_world _ _) (keeps.placed.in_world suits) id (Nat.le_succ _)
    (fun same => absurd same (Nat.succ_ne_self _)) ?_ ?_
  · cases direct : lookup.direct with
    | false => exact nofun
    | true =>
        intro report member
        cases List.mem_singleton.mp member
        exact ⟨rfl, rfl⟩
  · intro direct _
    rw [direct]
    exact ⟨_, List.mem_singleton_self _, triggers⟩

theorem beside (keeps : KeepsUp world path lookup first reports journal)
    (disturbance : Reconciler.Disturbance) :
    KeepsUp world path lookup first reports (journal.step (.beside disturbance.apply)) := by
  have steady := disturbance.steady journal.watched.state
  rw [← List.append_nil reports]
  exact keeps.changed (.of_steady steady) (keeps.placed.steady steady) id (Nat.le_refl _)
    (fun _ => congrArg PlacedSource.world steady.source) nofun
    fun _ again => absurd again (Nat.lt_irrefl _)

theorem shutdown (keeps : KeepsUp world path lookup first reports journal) :
    KeepsUp world path lookup first reports (journal.step .shutdown) := by
  rw [← List.append_nil reports]
  exact keeps.changed (.refl _) keeps.placed (fun _ => rfl) (Nat.le_refl _) (fun _ => rfl) nofun
    fun _ again => absurd again (Nat.lt_irrefl _)

theorem deliver (keeps : KeepsUp world path lookup first reports journal) {index : Nat}
    {notice : Notice} {rest : List (Nat × Notice)} (waiting : reports = (index, notice) :: rest)
    (accepted : journal.accepts index = true) :
    KeepsUp world path lookup first rest (journal.step (.send index notice)) := by
  have faithful := keeps.faithful.send index notice
  obtain ⟨watcher, _, _, sent⟩ := Journal.step_send accepted notice
  rw [sent] at faithful ⊢
  subst waiting
  obtain ⟨rfl, direct⟩ := keeps.reported _ List.mem_cons_self
  exact {
    faithful := faithful
    single := List.length_set.trans keeps.single
    placed := keeps.placed
    free := keeps.free
    held := keeps.held
    recent := keeps.recent
    reported := fun report member => keeps.reported report (List.mem_cons_of_mem _ member)
    sent := by
      intro sending member
      rcases List.mem_append.mp member with earlier | new
      · exact keeps.sent sending earlier
      · cases List.mem_singleton.mp new
        exact ⟨rfl, direct⟩
    noticed := by
      intro _ rewritten
      rcases keeps.noticed direct rewritten with ⟨report, member, triggers⟩ |
        ⟨sending, member, triggers, latest⟩
      · rcases List.mem_cons.mp member with rfl | inRest
        · exact .inr ⟨_, List.mem_append_right _ List.mem_cons_self, triggers, rfl⟩
        · exact .inl ⟨report, inRest, triggers⟩
      · exact .inr ⟨sending, List.mem_append_left _ member, triggers, latest⟩ }

theorem direct_of_read (keeps : KeepsUp world path lookup first reports journal)
    (again : journal.readings ≠ []) : lookup.direct = true := by
  obtain ⟨sending, member, _⟩ := keeps.faithful.called again
  exact (keeps.sent sending member).2

section Resting

variable (keeps : KeepsUp world path lookup first [] journal)
  (resting : ∀ watcher ∈ journal.watched.watchers, watcher.queue = [] ∧ watcher.taken = none)
include keeps resting

theorem not_held_of_resting : journal.watched.holder = none := by
  cases held : journal.watched.holder with
  | none => rfl
  | some holding =>
      obtain ⟨_, watcher, standing, busy⟩ := keeps.faithful.held holding.1 holding.2 held
      rw [(resting watcher (List.mem_of_getElem? standing)).2] at busy
      cases busy

/-- All that calls for a pass has been answered by a reading. -/
theorem hasRead_of_resting {sending : Reconciler.Sending} (member : sending ∈ journal.sent)
    (triggers : sending.notice.kind.triggersPass = true) : journal.HasRead sending.rewritings := by
  have one : 0 < journal.watched.watchers.length := by
    rw [keeps.single]
    exact Nat.one_pos
  have standing := List.getElem?_eq_getElem one
  obtain ⟨empty, idle⟩ := resting _ (List.getElem_mem one)
  rcases (keeps.faithful.kept 0 _ standing).owing sending member (keeps.sent sending member).1
    triggers with read | ⟨waiting, inQueue, _⟩ | ⟨busy, _⟩
  · exact read
  · rw [empty] at inQueue
    cases inQueue
  · rw [idle] at busy
    cases busy

/-- A file that has been rewritten under its own path has been read again. -/
theorem read_of_rewritten (direct : lookup.direct = true) (rewritten : 0 < journal.rewritings) :
    journal.HasRead journal.rewritings := by
  rcases keeps.noticed direct rewritten with ⟨_, member, _⟩ | ⟨sending, member, triggers, latest⟩
  · cases member
  · rw [← latest]
    exact keeps.hasRead_of_resting resting member triggers

/-- What has been read again is the file as it is. -/
theorem lastWorld_of_read (again : journal.readings ≠ []) :
    journal.lastWorld first = journal.watched.state.source.world := by
  have isLast := List.getLast?_eq_some_getLast again
  have known := keeps.faithful.read _ (List.getLast_mem again)
  have latest : (journal.readings.getLast again).rewritings = journal.rewritings := by
    rcases Nat.eq_zero_or_pos journal.rewritings with never | rewritten
    · omega
    · obtain ⟨last, found, late⟩ :=
        keeps.read_of_rewritten resting (keeps.direct_of_read again) rewritten
      rw [isLast] at found
      cases found
      exact Nat.le_antisymm known late
  rw [Journal.lastWorld, isLast]
  exact keeps.recent _ isLast latest

/-- The live names are those that the file declared when it was read last. -/
theorem mem_names_of_resting (name : String) :
    name ∈ journal.watched.state.registry.names ↔
      name ∈ (journal.lastWorld first).declaredNames path := by
  obtain ⟨readFrom, inLine⟩ := keeps.free (keeps.not_held_of_resting resting)
  rw [← Reconciler.names_eq readFrom]
  exact inLine name

end Resting

end KeepsUp

end Startup

end Telemetry
