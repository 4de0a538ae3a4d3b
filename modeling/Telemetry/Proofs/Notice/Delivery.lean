import Telemetry.Proofs.Notice.Journal

/-!
Watchers lose, repeat and reorder nothing, and what they leave behind has been read since. A notice
on a queue that calls for a pass is a debt: the source is read again before it is paid, and until
then the notice waits or its pass has not read yet.
-/

namespace Telemetry.Reconciler.Journal

open Program (AsksOnly)

variable {σ ρ τ : Type} {journal before after : Journal σ ρ τ} {index other : Nat}
  {watcher : Watcher}

/-- Whether the last reading is no older than so many rewritings. -/
def HasRead (journal : Journal σ ρ τ) (rewritings : Nat) : Prop :=
  ∃ last, journal.readings.getLast? = some last ∧ rewritings ≤ last.rewritings

/-- Whether a watcher has a reading of the source before it. -/
def Owes (journal : Journal σ ρ τ) (index : Nat) (watcher : Watcher) : Prop :=
  (∃ notice ∈ watcher.queue, notice.kind.triggersPass = true) ∨
    (watcher.taken.isSome = true ∧
      ∀ program, journal.watched.holder = some (index, program) → program = Pass.program)

/-- What a watcher has done and has yet to do accounts for all that was sent to it. -/
structure Kept (journal : Journal σ ρ τ) (index : Nat) (watcher : Watcher) : Prop where
  queued : watcher.handed ++ watcher.queue = journal.sentTo index
  seenThrough : journal.passesOf index + (if watcher.taken.isSome then 1 else 0) =
    (watcher.handed.filter (·.kind.triggersPass)).length
  through : watcher.ended = true → watcher.taken = none ∧
    (journal.watched.shutdown = true ∨ watcher.queue = [] ∧ watcher.closed = true)
  calling : ∀ notice, watcher.taken = some notice →
    notice ∈ watcher.handed ∧ notice.kind.triggersPass = true
  owing : ∀ sending ∈ journal.sent, sending.watcher = index →
    sending.notice.kind.triggersPass = true →
      journal.HasRead sending.rewritings ∨ journal.Owes index watcher

structure Faithful (journal : Journal σ ρ τ) : Prop where
  kept : ∀ index watcher, journal.watched.watchers[index]? = some watcher →
    journal.Kept index watcher
  held : ∀ owner program, journal.watched.holder = some (owner, program) →
    (program = Pass.program ∨ AsksOnly Pass.IsSettled program) ∧
      ∃ watcher, journal.watched.watchers[owner]? = some watcher ∧ watcher.taken.isSome = true
  sent : ∀ sending ∈ journal.sent, sending.rewritings ≤ journal.rewritings
  read : ∀ reading ∈ journal.readings, reading.rewritings ≤ journal.rewritings
  called : journal.readings ≠ [] → ∃ sending ∈ journal.sent,
    sending.notice.kind.triggersPass = true

theorem start_faithful (state : Reconciler σ ρ τ) (count : Nat) :
    (start state count).Faithful where
  kept := by
    intro index watcher standing
    obtain rfl : watcher = Watcher.start :=
      List.eq_of_mem_replicate (List.mem_of_getElem? standing)
    exact ⟨rfl, rfl, nofun, nofun, nofun⟩
  held := nofun
  sent := nofun
  read := nofun
  called := fun read => absurd rfl read

/-- What something that concerns one watcher leaves of the others. -/
structure Frame (index : Nat) (before after : Journal σ ρ τ) : Prop where
  watchers : ∀ other, other ≠ index →
    after.watched.watchers[other]? = before.watched.watchers[other]?
  holder : ∀ other program, other ≠ index →
    after.watched.holder = some (other, program) → before.watched.holder = some (other, program)
  passes : ∀ other, other ≠ index → after.passesOf other = before.passesOf other
  shutdown : after.watched.shutdown = before.watched.shutdown
  sentTo : ∀ other, other ≠ index → after.sentTo other = before.sentTo other
  sent : ∀ sending ∈ after.sent, sending.watcher ≠ index → sending ∈ before.sent
  hasRead : ∀ rewritings, before.HasRead rewritings → after.HasRead rewritings

namespace Frame

theorem kept (frame : Frame index before after) (different : other ≠ index)
    (kept : before.Kept other watcher) : after.Kept other watcher where
  queued := kept.queued.trans (frame.sentTo other different).symm
  seenThrough := by
    rw [frame.passes other different]
    exact kept.seenThrough
  through := by
    rw [frame.shutdown]
    exact kept.through
  calling := kept.calling
  owing := by
    rintro sending member rfl calls
    rcases kept.owing sending (frame.sent sending member different) rfl calls with
      read | waits | ⟨busy, unread⟩
    · exact .inl (frame.hasRead _ read)
    · exact .inr (.inl waits)
    · exact .inr (.inr ⟨busy, fun program held => unread program (frame.holder _ _ different held)⟩)

theorem faithful (frame : Frame index before after) (faithful : before.Faithful)
    (kept : ∀ watcher, after.watched.watchers[index]? = some watcher → after.Kept index watcher)
    (held : ∀ program, after.watched.holder = some (index, program) →
      (program = Pass.program ∨ AsksOnly Pass.IsSettled program) ∧
        ∃ watcher, after.watched.watchers[index]? = some watcher ∧ watcher.taken.isSome = true)
    (sent : ∀ sending ∈ after.sent, sending.rewritings ≤ after.rewritings)
    (read : ∀ reading ∈ after.readings, reading.rewritings ≤ after.rewritings)
    (called : after.readings ≠ [] → ∃ sending ∈ after.sent,
      sending.notice.kind.triggersPass = true) : after.Faithful where
  kept := by
    intro other watcher standing
    by_cases same : other = index
    · subst same
      exact kept watcher standing
    · rw [frame.watchers other same] at standing
      exact frame.kept same (faithful.kept other watcher standing)
  held := by
    intro owner program isHeld
    by_cases same : owner = index
    · subst same
      exact held program isHeld
    · rw [frame.watchers owner same]
      exact faithful.held owner program (frame.holder owner program same isHeld)
  sent := sent
  read := read
  called := called

theorem set (journal : Journal σ ρ τ) (index : Nat) (watcher : Watcher) :
    Frame index journal (journal.set index watcher) where
  watchers := fun _ different => List.getElem?_set_ne (Ne.symm different)
  holder := fun _ _ _ held => held
  passes := fun _ _ => rfl
  shutdown := rfl
  sentTo := fun _ _ => rfl
  sent := fun _ member _ => member
  hasRead := fun _ read => read

end Frame

theorem eq_of_getElem?_set (journal : Journal σ ρ τ) {changed : Watcher}
    (standing : (journal.set index changed).watched.watchers[index]? = some watcher) :
    watcher = changed := by
  rcases Watching.of_getElem?_replaced standing with ⟨_, same⟩ | ⟨different, _⟩
  · exact same
  · exact absurd rfl different

theorem getElem?_set {changed : Watcher}
    (standing : journal.watched.watchers[index]? = some watcher) :
    (journal.set index changed).watched.watchers[index]? = some changed := by
  obtain ⟨inside, _⟩ := List.getElem?_eq_some_iff.mp standing
  exact List.getElem?_set_self inside

/-- A watcher without a notice in hand does not hold the lock. -/
theorem Faithful.not_held_of_idle (faithful : journal.Faithful)
    (standing : journal.watched.watchers[index]? = some watcher) (idle : watcher.taken = none)
    (program : PassProgram (Option Report)) :
    journal.watched.holder ≠ some (index, program) := by
  intro held
  obtain ⟨_, holding, holds, busy⟩ := faithful.held index program held
  rw [standing] at holds
  cases holds
  rw [idle] at busy
  cases busy

/-- A pass that asks something else next has read what is declared. -/
theorem ne_program_of_settled {question : PassQuestion} (settled : Pass.IsSettled question)
    (next : question.Answer → PassProgram (Option Report)) :
    Program.ask question next ≠ Pass.program := by
  intro same
  rw [Pass.program_eq] at same
  cases same
  exact settled rfl

namespace Faithful

/-- A watcher that is replaced by one in which nothing is lost. -/
theorem set {changed : Watcher} (faithful : journal.Faithful)
    (standing : journal.watched.watchers[index]? = some watcher)
    (kept : (journal.set index changed).Kept index changed)
    (busy : ∀ program, journal.watched.holder = some (index, program) →
      changed.taken = watcher.taken) :
    (journal.set index changed).Faithful := by
  refine (Frame.set journal index changed).faithful faithful ?_ ?_ faithful.sent faithful.read
    faithful.called
  · intro found foundAt
    rw [eq_of_getElem?_set journal foundAt]
    exact kept
  · intro program held
    obtain ⟨shape, holding, holds, isBusy⟩ := faithful.held index program held
    rw [standing] at holds
    cases holds
    exact ⟨shape, changed, getElem?_set standing, by rw [busy program held]; exact isBusy⟩

theorem leave (faithful : journal.Faithful)
    (standing : journal.watched.watchers[index]? = some watcher) (idle : watcher.taken = none)
    (through : journal.watched.shutdown = true ∨ watcher.queue = [] ∧ watcher.closed = true) :
    (journal.set index { watcher with ended := true }).Faithful := by
  have kept := faithful.kept index watcher standing
  refine faithful.set standing ?_ fun _ _ => rfl
  exact ⟨kept.queued, kept.seenThrough, fun _ => ⟨idle, through⟩, kept.calling, kept.owing⟩

theorem take (faithful : journal.Faithful) {notice : Notice} {queue : List Notice}
    (standing : journal.watched.watchers[index]? = some watcher)
    (working : watcher.ended = false) (idle : watcher.taken = none)
    (queued : watcher.queue = notice :: queue) :
    (journal.set index { watcher with
      queue := queue
      handed := watcher.handed ++ [notice]
      taken := if notice.kind.triggersPass then some notice else none }).Faithful := by
  have kept := faithful.kept index watcher standing
  have free := faithful.not_held_of_idle standing idle
  refine faithful.set standing ?_ fun program held => absurd held (free program)
  exact {
    queued := by
      have asSent := kept.queued
      rw [queued] at asSent
      exact (List.append_assoc _ _ _).trans asSent
    seenThrough := by
      have counted := kept.seenThrough
      rw [idle] at counted
      simp only [List.filter_append, List.length_append, ← counted]
      change journal.passesOf index + _ = journal.passesOf index + _ + _
      cases calls : notice.kind.triggersPass <;> simp [calls]
    through := by
      intro ended
      rw [working] at ended
      cases ended
    calling := by
      intro taken isTaken
      cases calls : notice.kind.triggersPass with
      | true =>
          rw [calls] at isTaken
          cases isTaken
          exact ⟨List.mem_append_right _ List.mem_cons_self, calls⟩
      | false =>
          rw [calls] at isTaken
          cases isTaken
    owing := by
      intro sending member own calls
      rcases kept.owing sending member own calls with
        read | ⟨waiting, inQueue, triggers⟩ | ⟨busy, _⟩
      · exact .inl read
      · rw [queued] at inQueue
        rcases List.mem_cons.mp inQueue with rfl | inRest
        · refine .inr (.inr ⟨by rw [triggers]; rfl, ?_⟩)
          intro program held
          exact absurd held (free program)
        · exact .inr (.inl ⟨waiting, inRest, triggers⟩)
      · rw [idle] at busy
        cases busy }

/-- A notice that is taken calls for a pass, so it is never put aside. -/
theorem not_skipped (faithful : journal.Faithful) {notice : Notice}
    (standing : journal.watched.watchers[index]? = some watcher)
    (busy : watcher.taken = some notice) : notice.kind.triggersPass ≠ false := by
  intro idle
  obtain ⟨_, calls⟩ := (faithful.kept index watcher standing).calling notice busy
  rw [idle] at calls
  cases calls

/-- Who holds the lock was sent a notice that calls for a pass. -/
theorem sent_of_held (faithful : journal.Faithful) {program : PassProgram (Option Report)}
    (held : journal.watched.holder = some (index, program)) :
    ∃ sending ∈ journal.sent, sending.notice.kind.triggersPass = true := by
  obtain ⟨_, holding, holds, busy⟩ := faithful.held index program held
  obtain ⟨notice, taken⟩ := Option.isSome_iff_exists.mp busy
  have kept := faithful.kept index holding holds
  obtain ⟨wasHanded, calls⟩ := kept.calling notice taken
  have wasSent : notice ∈ journal.sentTo index :=
    kept.queued ▸ List.mem_append_left _ wasHanded
  obtain ⟨sending, own, rfl⟩ := List.mem_map.mp wasSent
  exact ⟨sending, (List.mem_filter.mp own).1, calls⟩

theorem lock (faithful : journal.Faithful) {notice : Notice}
    (standing : journal.watched.watchers[index]? = some watcher)
    (busy : watcher.taken = some notice) :
    Faithful { journal with
      watched := { journal.watched with holder := some (index, Pass.program) } } := by
  refine Frame.faithful (?_ : Frame index journal _) faithful ?_ ?_ faithful.sent faithful.read
    faithful.called
  · exact {
      watchers := fun _ _ => rfl
      holder := by
        intro other program different held
        cases held
        exact absurd rfl different
      passes := fun _ _ => rfl
      shutdown := rfl
      sentTo := fun _ _ => rfl
      sent := fun _ member _ => member
      hasRead := fun _ read => read }
  · intro found foundAt
    have kept := faithful.kept index found foundAt
    refine ⟨kept.queued, kept.seenThrough, kept.through, kept.calling, ?_⟩
    intro sending member own calls
    rcases kept.owing sending member own calls with read | waits | ⟨inHand, _⟩
    · exact .inl read
    · exact .inr (.inl waits)
    · refine .inr (.inr ⟨inHand, ?_⟩)
      intro program held
      cases held
      rfl
  · intro program held
    cases held
    exact ⟨.inl rfl, watcher, standing, by rw [busy]; rfl⟩

theorem finish (faithful : journal.Faithful) {notice : Notice} {result : Option Report}
    (standing : journal.watched.watchers[index]? = some watcher)
    (busy : watcher.taken = some notice)
    (held : journal.watched.holder = some (index, .done result)) :
    Faithful { journal with
      watched := { journal.watched.replaced index { watcher with taken := none } with
        holder := none
        finished := journal.watched.finished ++ [(index, result)] } } := by
  have kept := faithful.kept index watcher standing
  refine Frame.faithful (?_ : Frame index journal _) faithful ?_ nofun faithful.sent faithful.read
    faithful.called
  · exact {
      watchers := (Frame.set journal index { watcher with taken := none }).watchers
      holder := nofun
      passes := by
        intro other different
        simp [passesOf, List.filter_append, Ne.symm different]
      shutdown := rfl
      sentTo := fun _ _ => rfl
      sent := fun _ member _ => member
      hasRead := fun _ read => read }
  · intro found foundAt
    obtain rfl := eq_of_getElem?_set journal foundAt
    exact {
      queued := kept.queued
      seenThrough := by
        have counted := kept.seenThrough
        rw [busy] at counted
        simpa [passesOf, List.filter_append] using counted
      through := by
        intro ended
        obtain ⟨idle, _⟩ := kept.through ended
        rw [busy] at idle
        cases idle
      calling := nofun
      owing := by
        intro sending member own calls
        rcases kept.owing sending member own calls with read | waits | ⟨_, unread⟩
        · exact .inl read
        · exact .inr (.inl waits)
        · have isUnread := unread _ held
          rw [Pass.program_eq] at isUnread
          cases isUnread }

/-- The holder of the lock goes on in its pass. -/
theorem goOn (faithful : journal.Faithful) {program next : PassProgram (Option Report)}
    (held : journal.watched.holder = some (index, program))
    (shape : AsksOnly Pass.IsSettled next) (state : Reconciler σ ρ τ)
    (readings : List (Reading σ))
    (hasRead : ∀ rewritings, journal.HasRead rewritings →
      HasRead { journal with readings := readings } rewritings)
    (own : ∀ sending ∈ journal.sent, program = Pass.program →
      HasRead { journal with readings := readings } sending.rewritings)
    (read : ∀ reading ∈ readings, reading.rewritings ≤ journal.rewritings)
    (called : readings ≠ [] → ∃ sending ∈ journal.sent,
      sending.notice.kind.triggersPass = true) :
    Faithful { journal with
      watched := { journal.watched with state := state, holder := some (index, next) }
      readings := readings } := by
  refine Frame.faithful (?_ : Frame index journal _) faithful ?_ ?_ faithful.sent read called
  · exact {
      watchers := fun _ _ => rfl
      holder := by
        intro other program different isHeld
        cases isHeld
        exact absurd rfl different
      passes := fun _ _ => rfl
      shutdown := rfl
      sentTo := fun _ _ => rfl
      sent := fun _ member _ => member
      hasRead := hasRead }
  · intro found foundAt
    have kept := faithful.kept index found foundAt
    refine ⟨kept.queued, kept.seenThrough, kept.through, kept.calling, ?_⟩
    intro sending member owned calls
    rcases kept.owing sending member owned calls with read | waits | ⟨_, unread⟩
    · exact .inl (hasRead _ read)
    · exact .inr (.inl waits)
    · exact .inl (own sending member (unread program held))
  · intro left isHeld
    cases isHeld
    exact ⟨.inr shape, (faithful.held index program held).2⟩

/-- What a queue has room for is taken onto it. -/
theorem enqueue (faithful : journal.Faithful)
    (standing : journal.watched.watchers[index]? = some watcher)
    (working : watcher.ended = false) (notice : Notice) :
    Faithful { journal.set index { watcher with queue := watcher.queue ++ [notice] } with
      sent := journal.sent ++ [⟨index, notice, journal.rewritings⟩] } := by
  have kept := faithful.kept index watcher standing
  have frame := Frame.set journal index { watcher with queue := watcher.queue ++ [notice] }
  refine Frame.faithful (?_ : Frame index journal _) faithful ?_ ?_ ?_ faithful.read ?_
  · exact { frame with
      sentTo := by
        intro other different
        simp [sentTo, List.filter_append, Ne.symm different]
      sent := by
        intro sending member different
        rcases List.mem_append.mp member with earlier | new
        · exact earlier
        · cases List.mem_singleton.mp new
          exact absurd rfl different }
  · intro found foundAt
    obtain rfl := eq_of_getElem?_set journal foundAt
    exact {
      queued := by
        have asSent := kept.queued
        simp [sentTo, List.filter_append, ← List.append_assoc, asSent]
      seenThrough := kept.seenThrough
      through := by
        intro ended
        rw [working] at ended
        cases ended
      calling := kept.calling
      owing := by
        intro sending member own calls
        rcases List.mem_append.mp member with earlier | new
        · rcases kept.owing sending earlier own calls with
            read | ⟨waiting, inQueue, triggers⟩ | unread
          · exact .inl read
          · exact .inr (.inl ⟨waiting, List.mem_append_left _ inQueue, triggers⟩)
          · exact .inr (.inr unread)
        · cases List.mem_singleton.mp new
          exact .inr (.inl ⟨notice, List.mem_append_right _ List.mem_cons_self, calls⟩) }
  · intro program held
    obtain ⟨shape, holding, holds, busy⟩ := faithful.held index program held
    rw [standing] at holds
    cases holds
    exact ⟨shape, _, getElem?_set standing, busy⟩
  · intro sending member
    rcases List.mem_append.mp member with earlier | new
    · exact faithful.sent sending earlier
    · cases List.mem_singleton.mp new
      exact Nat.le_refl _
  · intro read
    obtain ⟨sending, member, calls⟩ := faithful.called read
    exact ⟨sending, List.mem_append_left _ member, calls⟩

/-- What happens elsewhere, and a shutdown, takes nothing from what is kept. -/
theorem elsewhere (faithful : journal.Faithful) (state : Reconciler σ ρ τ) {shutdown : Bool}
    (stays : journal.watched.shutdown = true → shutdown = true) {rewritings : Nat}
    (later : journal.rewritings ≤ rewritings) :
    Faithful { journal with
      watched := { journal.watched with state := state, shutdown := shutdown }
      rewritings := rewritings } where
  kept := by
    intro index watcher standing
    have kept := faithful.kept index watcher standing
    refine ⟨kept.queued, kept.seenThrough, ?_, kept.calling, kept.owing⟩
    intro ended
    obtain ⟨idle, through⟩ := kept.through ended
    exact ⟨idle, through.imp_left stays⟩
  held := faithful.held
  sent := fun sending member => Nat.le_trans (faithful.sent sending member) later
  read := fun reading member => Nat.le_trans (faithful.read reading member) later
  called := faithful.called

variable [TargetSource σ] [TargetRegistry ρ τ]

theorem advance (faithful : journal.Faithful) (advanced : journal.Advanced index after) :
    after.Faithful := by
  cases advanced with
  | rest => exact faithful
  | leave standing idle through => exact faithful.leave standing idle through
  | take standing working idle queued running =>
      exact faithful.take standing working idle queued
  | skip standing busy idle => exact absurd idle (faithful.not_skipped standing busy)
  | lock standing working busy free => exact faithful.lock standing busy
  | finish standing busy held => exact faithful.finish standing busy held
  | @read next held =>
      -- Only a pass at its beginning reads, so the notice it was taken for is answered here, and
      -- with it every other that has been sent by now.
      have isProgram : Program.ask .declared next = Pass.program :=
        (faithful.held index _ held).1.resolve_right fun settled => settled.1 rfl
      rw [Pass.program_eq] at isProgram
      cases isProgram
      have hasRead : ∀ rewritings, rewritings ≤ journal.rewritings →
          HasRead { journal with readings := journal.readings ++
            [⟨journal.watched.state.source, journal.rewritings⟩] } rewritings :=
        fun rewritings earlier => ⟨_, List.getLast?_concat, earlier⟩
      refine faithful.goOn held (Pass.afterReading_settled _) _ _ ?_ ?_ ?_ ?_
      · rintro rewritings ⟨last, isLast, earlier⟩
        have known := faithful.read last (List.mem_of_getLast? isLast)
        exact hasRead rewritings (Nat.le_trans earlier known)
      · exact fun sending member _ => hasRead _ (faithful.sent sending member)
      · intro reading member
        rcases List.mem_append.mp member with earlier | new
        · exact faithful.read reading earlier
        · cases List.mem_singleton.mp new
          exact Nat.le_refl _
      · exact fun _ => faithful.sent_of_held held
  | @ask question next settled held =>
      have rest : AsksOnly Pass.IsSettled (Program.ask question next) :=
        (faithful.held index _ held).1.resolve_left (ne_program_of_settled settled next)
      refine faithful.goOn held (rest.2 _) _ _ (fun _ read => read) ?_ faithful.read faithful.called
      intro sending _ isProgram
      exact absurd isProgram (ne_program_of_settled settled next)

theorem send (faithful : journal.Faithful) (index : Nat) (notice : Notice) :
    (journal.step (.send index notice)).Faithful := by
  cases accepted : journal.accepts index with
  | false =>
      rw [step_send_refused accepted]
      exact faithful
  | true =>
      obtain ⟨watcher, standing, working, enqueued⟩ := step_send accepted notice
      rw [enqueued]
      exact faithful.enqueue standing working notice

theorem close (faithful : journal.Faithful) (index : Nat) :
    (journal.step (.close index)).Faithful := by
  simp only [Journal.step, JournalStep.watchStep, Watching.step, Watching.close]
  cases standing : journal.watched.watchers[index]? with
  | none => exact faithful
  | some watcher =>
      have kept := faithful.kept index watcher standing
      refine faithful.set standing ?_ fun _ _ => rfl
      refine ⟨kept.queued, kept.seenThrough, ?_, kept.calling, kept.owing⟩
      intro ended
      obtain ⟨idle, through⟩ := kept.through ended
      exact ⟨idle, through.imp_right fun drained => ⟨drained.1, rfl⟩⟩

theorem step (faithful : journal.Faithful) (step : JournalStep σ ρ τ) :
    (journal.step step).Faithful := by
  cases step with
  | watcher index => exact faithful.advance (journal.advanced index)
  | rewrite change => exact faithful.elsewhere _ id (Nat.le_succ _)
  | send index notice => exact faithful.send index notice
  | close index => exact faithful.close index
  | shutdown => exact faithful.elsewhere _ (fun _ => rfl) (Nat.le_refl _)
  | beside change => exact faithful.elsewhere _ id (Nat.le_refl _)

theorem run (faithful : journal.Faithful) (steps : List (JournalStep σ ρ τ)) :
    (journal.run steps).Faithful := by
  induction steps generalizing journal with
  | nil => exact faithful
  | cons first rest ih => exact ih (faithful.step first)

end Faithful

variable [TargetSource σ] [TargetRegistry ρ τ]

/-- Of every watcher, at any moment: what it has taken, followed by what waits on its queue, is what
was sent to it; if it has ended without a shutdown, its queue was closed, and all that was sent to
it is taken and all passes that it called for are seen through; and whenever nothing waits and
nothing is in hand, the last reading of the source is no older than any notice that was sent and
calls for a pass. -/
theorem watchers_deliver (state : Reconciler σ ρ τ) (count : Nat)
    (steps : List (JournalStep σ ρ τ)) (index : Nat) (watcher : Watcher)
    (standing : ((start state count).run steps).watched.watchers[index]? = some watcher) :
    let journal := (start state count).run steps
    watcher.handed ++ watcher.queue = journal.sentTo index ∧
      (journal.watched.shutdown = false → watcher.ended = true →
        watcher.closed = true ∧ watcher.taken = none ∧ watcher.handed = journal.sentTo index ∧
          journal.passesOf index = (watcher.handed.filter (·.kind.triggersPass)).length) ∧
      (watcher.queue = [] → watcher.taken = none →
        ∀ sending ∈ journal.sent, sending.watcher = index →
          sending.notice.kind.triggersPass = true → journal.HasRead sending.rewritings) := by
  intro journal
  have kept := ((start_faithful state count).run steps).kept index watcher standing
  refine ⟨kept.queued, ?_, ?_⟩
  · intro working ended
    obtain ⟨idle, through⟩ := kept.through ended
    have running : journal.watched.shutdown ≠ true := by
      rw [working]
      exact Bool.false_ne_true
    obtain ⟨nothing, closed⟩ := through.resolve_left running
    have taken := kept.queued
    have counted := kept.seenThrough
    rw [nothing, List.append_nil] at taken
    rw [idle] at counted
    exact ⟨closed, idle, taken, counted⟩
  · intro nothing idle sending member own calls
    rcases kept.owing sending member own calls with read | ⟨waiting, inQueue, _⟩ | ⟨busy, _⟩
    · exact read
    · rw [nothing] at inQueue
      cases inQueue
    · rw [idle] at busy
      cases busy

/-- The source is rewritten while the first pass is under way. -/
theorem rewritten_amid_pass_delivers :
    let source := PlacedSource.declaring [Target.ofAddress "a" "a:1"]
    let rewritten := PlacedSource.declaring [Target.ofAddress "b" "b:1"]
    let state := Reconciler.start source (Registry.empty ⟨false, none, false⟩)
    let steps := [.send 0 ⟨.write, "c.toml"⟩] ++ List.replicate 5 (.watcher 0) ++
      [.rewrite fun _ => rewritten, .send 0 ⟨.other, "c.toml"⟩, .send 0 ⟨.create, "c.toml"⟩,
        .close 0] ++ List.replicate 20 (.watcher 0)
    let journal := (start state 1).run steps
    journal.passesOf 0 = 2 ∧ journal.HasRead 1 := by
  intro source rewritten state steps journal
  have standing : journal.watched.watchers[0]? = some ⟨[], true, none,
      [⟨.write, "c.toml"⟩, ⟨.other, "c.toml"⟩, ⟨.create, "c.toml"⟩], true⟩ := by
    decide +kernel
  obtain ⟨_, ended, read⟩ := watchers_deliver state 1 steps 0 _ standing
  obtain ⟨_, _, _, passes⟩ := ended (by decide +kernel) rfl
  refine ⟨passes, read rfl rfl ⟨0, ⟨.create, "c.toml"⟩, 1⟩ ?_ rfl rfl⟩
  have sent : journal.sent =
      [⟨0, ⟨.write, "c.toml"⟩, 0⟩, ⟨0, ⟨.other, "c.toml"⟩, 1⟩, ⟨0, ⟨.create, "c.toml"⟩, 1⟩] := by
    decide +kernel
  rw [sent]
  simp

end Telemetry.Reconciler.Journal
