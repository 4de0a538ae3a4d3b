import Mathlib.Data.List.Induction
import Telemetry.Proofs.Registry.Tracking

/-!
Marks along every run: an entry is what its marks make of it, an initialisation marks only the
registration that it found when it began, and it makes no mark after the one that ends it.
-/

namespace Telemetry

open Initialising (Move)

/-- The entry that marks make of a new one. -/
def marked (markings : List Marking) (entry : Entry) : Entry :=
  markings.foldl (fun entry marking => marking.mark.apply entry) entry

theorem marked_append (earlier : List Marking) (last : Marking) (entry : Entry) :
    marked (earlier ++ [last]) entry = last.mark.apply (marked earlier entry) := by
  simp [marked]

namespace History

theorem markingsOn_append (history : History) (marking : Marking) (generation : Nat) :
    { history with markings := history.markings ++ [marking] }.markingsOn generation =
      if marking.generation = generation then history.markingsOn generation ++ [marking]
      else history.markingsOn generation := by
  unfold markingsOn
  split
  · rename_i same
    simp [same]
  · rename_i other
    simp [other]

/-- The marks account for the entries. -/
structure Accounts (history : History) (registry : Registry) : Prop where
  marked : ∀ marking ∈ history.markings, (marking.caller, marking.generation) ∈ history.begun
  spent : ∀ marking ∈ history.markings, marking.mark.isEnd = true →
    marking.caller ∉ history.callers
  last : history.markings.Pairwise
    (fun earlier later => earlier.mark.isEnd = true → later.caller ≠ earlier.caller)
  applied : ∀ name entry, registry.entryAt? name = some entry →
    entry = Telemetry.marked (history.markingsOn entry.generation)
      (Entry.start entry.target entry.generation)

/-- The bookkeeping is right. -/
structure Sound (history : History) (registry : Registry) (tasks : List InitTask) : Prop where
  numbered : registry.Numbered
  tracks : history.Tracks registry tasks
  accounts : history.Accounts registry

namespace Accounts

variable {history : History} {registry : Registry} {tasks : List InitTask} {caller place : Nat}

theorem empty (dialing : Dialing) : History.empty.Accounts (Registry.empty dialing) where
  marked := by intro marking member; cases member
  spent := by intro marking member; cases member
  last := List.Pairwise.nil
  applied := by intro name entry found; cases found

theorem markingsOn_eq_nil (accounts : history.Accounts registry)
    (tracks : history.Tracks registry tasks) {generation : Nat}
    (new : registry.nextGeneration ≤ generation) : history.markingsOn generation = [] := by
  refine List.filter_eq_nil_iff.mpr ?_
  intro marking member same
  have old := tracks.begunBelow _ (accounts.marked marking member)
  rw [beq_iff_eq.mp same] at old
  exact Nat.not_lt.mpr new old

theorem registered (accounts : history.Accounts registry)
    (tracks : history.Tracks registry tasks) (target : Target) :
    history.Accounts (registry.registered target) :=
  { accounts with
    applied := by
      intro name entry found
      rw [Registry.entryAt?_registered] at found
      split at found
      · cases found
        have unmarked := accounts.markingsOn_eq_nil tracks (Nat.le_refl registry.nextGeneration)
        simp only [Entry.start, unmarked]
        rfl
      · exact accounts.applied name entry found }

theorem unregistered (accounts : history.Accounts registry) (name : String) :
    history.Accounts (registry.unregistered name) :=
  { accounts with
    applied := by
      intro other entry found
      rw [Registry.entryAt?_unregistered] at found
      split at found
      · cases found
      · exact accounts.applied other entry found }

theorem call (accounts : history.Accounts registry) (tracks : history.Tracks registry tasks)
    (origin : Option Nat) : (history.called origin).Accounts registry :=
  { accounts with
    spent := by
      intro marking member isEnd called
      rcases List.mem_append.mp called with pending | last
      · exact accounts.spent marking member isEnd pending
      · have begun := tracks.begunCalled _ (accounts.marked marking member)
        rw [List.mem_singleton.mp last] at begun
        exact Nat.lt_irrefl _ begun }

theorem begin (accounts : history.Accounts registry) (caller generation : Nat) :
    (history.begins caller generation).Accounts registry :=
  { accounts with
    marked := fun marking member => List.mem_append_left _ (accounts.marked marking member) }

theorem leave (accounts : history.Accounts registry) (place : Nat) :
    (history.leaves place).Accounts registry :=
  { accounts with
    spent := fun marking member isEnd pending =>
      accounts.spent marking member isEnd (List.mem_of_mem_eraseIdx pending) }

/-- An initialisation that has made no last mark yet marks the registration that it has found. -/
theorem mark (accounts : history.Accounts registry) (numbered : registry.Numbered)
    {seen : Registration} {mark : Mark}
    (found : (caller, seen.generation) ∈ history.begun)
    (unended : ∀ marking ∈ history.markings, marking.mark.isEnd = true → marking.caller ≠ caller)
    (gone : mark.isEnd = true → caller ∉ history.callers) :
    (history.marks registry caller seen mark).Accounts
      (registry.update seen.name seen.generation mark.apply) := by
  cases live : registry.isLive seen with
  | false =>
      rw [Registry.update_of_not_isLive live, History.marks, if_neg (by simp [live])]
      exact accounts
  | true =>
      have current := Registry.isLive_iff.mp live
      rw [History.marks, if_pos live]
      exact {
        marked := by
          intro marking member
          rcases List.mem_append.mp member with member | last
          · exact accounts.marked marking member
          · rw [List.mem_singleton.mp last]
            exact found
        spent := by
          intro marking member isEnd
          rcases List.mem_append.mp member with member | last
          · exact accounts.spent marking member isEnd
          · rw [List.mem_singleton.mp last] at isEnd ⊢
            exact gone isEnd
        last := by
          refine List.pairwise_append.mpr ⟨accounts.last, List.pairwise_singleton _ _, ?_⟩
          intro earlier member later last isEnd
          rw [List.mem_singleton.mp last]
          exact (unended earlier member isEnd).symm
        applied := by
          intro name entry lookup
          rw [Registry.entryAt?_update] at lookup
          rw [markingsOn_append]
          split at lookup
          · obtain ⟨former, before, rfl⟩ := Option.map_eq_some_iff.mp lookup
            have account := accounts.applied seen.name former before
            have number : former.generation = seen.generation := by
              rw [Registry.generation?, before] at current
              exact Option.some.inj current
            rw [number] at account
            rw [if_pos number, Mark.apply_generation, Mark.apply_target, number, if_pos rfl,
              marked_append]
            exact congrArg mark.apply account
          · rename_i otherName
            have distinct : ¬ seen.generation = entry.generation := by
              intro same
              apply otherName
              refine numbered.single name seen.name seen.generation ?_ current
              rw [Registry.generation?, lookup, same]
              rfl
            rw [if_neg distinct]
            exact accounts.applied name entry lookup }

end Accounts

namespace Sound

variable {history : History} {state : Initialising}

theorem empty (dialing : Dialing) : History.empty.Sound (Registry.empty dialing) [] :=
  ⟨.empty dialing, .empty _, .empty dialing⟩

theorem add (sound : history.Sound state.registry state.tasks) (target : Target) :
    history.Sound (state.move (.add target)).registry state.tasks := by
  change history.Sound (state.registry.afterwards (state.registry.add target)).2 state.tasks
  rcases state.registry.afterwards_add_cases target with ⟨_, _, answer⟩ | ⟨_, reason, answer⟩
  · rw [answer]
    exact ⟨sound.numbered.registered target, sound.tracks.succeed (.registered _ target),
      sound.accounts.registered sound.tracks target⟩
  · rw [answer]
    exact sound

theorem delete (sound : history.Sound state.registry state.tasks) (name : String) :
    history.Sound (state.move (.delete name)).registry state.tasks := by
  change history.Sound (state.registry.afterwards (state.registry.delete name)).2 state.tasks
  rcases state.registry.afterwards_delete_cases name with ⟨_, answer⟩ | ⟨_, reason, answer⟩
  · rw [answer]
    exact ⟨sound.numbered.unregistered name, sound.tracks.succeed (.unregistered _ name),
      sound.accounts.unregistered name⟩
  · rw [answer]
    exact sound

theorem call (sound : history.Sound state.registry state.tasks) (origin : Option Nat)
    (name : String) :
    (history.called origin).Sound state.registry (state.tasks ++ [.spawned name]) :=
  ⟨sound.numbered, sound.tracks.call origin name, sound.accounts.call sound.tracks origin⟩

theorem leave (sound : history.Sound state.registry state.tasks) (place : Nat) :
    (history.leaves place).Sound state.registry (state.tasks.eraseIdx place) :=
  ⟨sound.numbered, sound.tracks.leave place, sound.accounts.leave place⟩

theorem mark (sound : history.Sound state.registry state.tasks) {caller : Nat}
    {seen : Registration} {mark : Mark}
    (found : (caller, seen.generation) ∈ history.begun)
    (unended : ∀ marking ∈ history.markings, marking.mark.isEnd = true → marking.caller ≠ caller)
    (gone : mark.isEnd = true → caller ∉ history.callers) :
    (history.marks state.registry caller seen mark).Sound
      (state.registry.update seen.name seen.generation mark.apply) state.tasks :=
  ⟨sound.numbered.update mark.apply_generation,
    (sound.tracks.marks caller seen mark).succeed (.update mark.apply_generation),
    sound.accounts.mark sound.numbered found unended gone⟩

theorem unended (sound : history.Sound state.registry state.tasks) {caller : Nat}
    (pending : caller ∈ history.callers) :
    ∀ marking ∈ history.markings, marking.mark.isEnd = true → marking.caller ≠ caller := by
  rintro marking member isEnd rfl
  exact sound.accounts.spent marking member isEnd pending

/-- The bookkeeping stays right with every step of an initialisation. -/
theorem init (sound : history.Sound state.registry state.tasks) (step : InitStep) :
    (history.note state (.init step)).Sound (state.step step).registry (state.step step).tasks := by
  have tracks := sound.tracks
  have stepped := history.stepped_note state tracks.paired step
  generalize history.note state (.init step) = noted, (state.step step).registry = registry,
    (state.step step).tasks = tasks at stepped ⊢
  cases stepped with
  | nothing => exact sound
  | leave place => exact sound.leave place
  | begin behind standing observed =>
      exact ⟨sound.numbered, tracks.begin sound.numbered behind standing observed,
        sound.accounts.begin _ _⟩
  | @connect place caller seen behind standing =>
      have found := tracks.found caller _ seen ⟨place, behind, standing⟩ rfl
      have connects : Mark.connecting.isEnd = true → caller ∉ history.callers :=
        fun impossible => by cases impossible
      have after : (history.marks state.registry caller seen .connecting).Sound
          (state.registry.markConnecting seen) state.tasks :=
        sound.mark found (sound.unended (List.mem_of_getElem? behind)) connects
      have advanced : history.Tracks state.registry (state.tasks.set place (.connecting seen)) :=
        tracks.advance behind standing rfl rfl
      exact ⟨after.numbered,
        (advanced.marks caller seen .connecting).succeed (.update Mark.connecting.apply_generation),
        after.accounts⟩
  | conclude behind standing =>
      exact ⟨sound.numbered, tracks.advance behind standing rfl rfl, sound.accounts⟩
  | @finish place caller seen ending behind standing =>
      have found := tracks.found caller _ seen ⟨place, behind, standing⟩ rfl
      have left : caller ∉ history.callers.eraseIdx place := by
        intro remaining
        obtain ⟨index, elsewhere, same⟩ := List.mem_eraseIdx_iff_getElem?.mp remaining
        obtain ⟨within, _⟩ := List.getElem?_eq_some_iff.mp same
        exact elsewhere ((List.getElem?_inj within tracks.distinct).mp (same.trans behind.symm))
      have after : (history.leaves place).Sound (state.dropped place).registry
          (state.dropped place).tasks := sound.leave place
      exact after.mark found (sound.unended (List.mem_of_getElem? behind)) (fun _ => left)

/-- The bookkeeping stays right with every move. -/
theorem note (sound : history.Sound state.registry state.tasks) (move : Move) :
    (history.note state move).Sound (state.move move).registry (state.move move).tasks := by
  cases move with
  | add target => exact sound.add target
  | delete name => exact sound.delete name
  | call name => exact sound.call _ name
  | init step => exact sound.init step
  | signal given => exact sound

end Sound

end History

/-- The bookkeeping is right after every run. -/
theorem Recorded.run_sound (dialing : Dialing) (moves : List Move) :
    ((Recorded.start dialing).run moves).history.Sound
      ((Recorded.start dialing).run moves).state.registry
      ((Recorded.start dialing).run moves).state.tasks := by
  induction moves using List.reverseRecOn with
  | nil => exact History.Sound.empty dialing
  | append_singleton earlier last ih =>
      rw [Recorded.run, List.foldl_append]
      exact ih.note last

end Telemetry
