import Telemetry.Proofs.Registry.Marking

/-!
When the channel and the state of a target agree: a registration that was connected keeps its
channel whatever is marked on it later, so the two part when another initialisation of the same
registration marks it as anything but connected.
-/

namespace Telemetry

/-- A channel is there exactly when the target is connected. -/
def Registry.Agrees (registry : Registry) (name : String) : Prop :=
  (registry.channel? name).isSome = true ↔ registry.state? name = some .connected

instance (registry : Registry) (name : String) : Decidable (registry.Agrees name) :=
  inferInstanceAs (Decidable (_ ↔ _))

/-- The last connection has been marked over, and not by the initialisation that made it. -/
def Overwritten (markings : List Marking) : Prop :=
  ∃ earlier made later, markings = earlier ++ made :: later ∧ made.mark.isConnection = true ∧
    later ≠ [] ∧
    ∀ marking ∈ later, marking.mark.isConnection = false ∧ marking.caller ≠ made.caller

variable {markings : List Marking} {entry : Entry}

theorem Mark.channel_apply_isSome (mark : Mark) (entry : Entry) :
    (mark.apply entry).channel.isSome = (mark.isConnection || entry.channel.isSome) := by
  rcases mark with _ | (_ | _ | _) <;> rfl

theorem Mark.state_apply (mark : Mark) (entry : Entry) :
    (mark.apply entry).state = .connected ↔ mark.isConnection = true := by
  rcases mark with _ | (_ | _ | _) <;> simp [Mark.apply, Registry.applyEnding, Mark.isConnection]

theorem channel_marked_isSome (fresh : entry.channel = none) :
    (marked markings entry).channel.isSome = true ↔
      ∃ marking ∈ markings, marking.mark.isConnection = true := by
  induction markings using List.reverseRecOn with
  | nil => simp [marked, fresh]
  | append_singleton earlier last ih =>
      rw [marked_append, Mark.channel_apply_isSome, Bool.or_eq_true, ih]
      constructor
      · rintro (connection | ⟨marking, member, connection⟩)
        · exact ⟨last, by simp, connection⟩
        · exact ⟨marking, by simp [member], connection⟩
      · rintro ⟨marking, member, connection⟩
        rcases List.mem_append.mp member with member | isLast
        · exact .inr ⟨marking, member, connection⟩
        · exact .inl (List.mem_singleton.mp isLast ▸ connection)

theorem state_marked (fresh : entry.state = .pending) :
    (marked markings entry).state = .connected ↔
      ∃ earlier last, markings = earlier ++ [last] ∧ last.mark.isConnection = true := by
  rcases List.eq_nil_or_concat markings with rfl | ⟨earlier, last, rfl⟩
  · simp [marked, fresh]
  · rw [List.concat_eq_append, marked_append, Mark.state_apply]
    constructor
    · intro connection
      exact ⟨earlier, last, rfl, connection⟩
    · rintro ⟨_, other, same, connection⟩
      rw [List.singleton_inj.mp (List.append_inj' same rfl).2]
      exact connection

theorem exists_last_connection
    (connected : ∃ marking ∈ markings, marking.mark.isConnection = true) :
    ∃ earlier made later, markings = earlier ++ made :: later ∧ made.mark.isConnection = true ∧
      ∀ marking ∈ later, marking.mark.isConnection = false := by
  induction markings using List.reverseRecOn with
  | nil => simp at connected
  | append_singleton before last ih =>
      cases connection : last.mark.isConnection with
      | true => exact ⟨before, last, [], rfl, connection, by simp⟩
      | false =>
          obtain ⟨marking, member, isConnection⟩ := connected
          have inBefore : marking ∈ before := by
            rcases List.mem_append.mp member with member | isLast
            · exact member
            · rw [List.mem_singleton.mp isLast, connection] at isConnection
              cases isConnection
          obtain ⟨earlier, made, later, rfl, isMade, others⟩ := ih ⟨marking, inBefore, isConnection⟩
          refine ⟨earlier, made, later ++ [last], by simp, isMade, ?_⟩
          intro other inLater
          rcases List.mem_append.mp inLater with inLater | isLast
          · exact others other inLater
          · rw [List.mem_singleton.mp isLast]
            exact connection

/-- The channel of an entry outlives its state exactly when a connection is marked over. -/
theorem marked_agrees_iff (target : Target) (generation : Nat)
    (once : markings.Pairwise
      (fun earlier later => earlier.mark.isEnd = true → later.caller ≠ earlier.caller)) :
    ((marked markings (Entry.start target generation)).channel.isSome = true ↔
        (marked markings (Entry.start target generation)).state = .connected) ↔
      ¬ Overwritten markings := by
  rw [channel_marked_isSome rfl, state_marked rfl]
  constructor
  · rintro agree ⟨earlier, made, later, rfl, connection, nonempty, others⟩
    obtain ⟨before, last, split, isLast⟩ := agree.mp ⟨made, by simp, connection⟩
    have inLater : last ∈ later := by
      obtain ⟨front, final, rfl⟩ := (List.eq_nil_or_concat later).resolve_left nonempty
      have same : (earlier ++ made :: front) ++ [final] = before ++ [last] := by simpa using split
      simp [List.singleton_inj.mp (List.append_inj' same rfl).2]
    rw [(others last inLater).1] at isLast
    cases isLast
  · intro intact
    constructor
    · intro connected
      obtain ⟨earlier, made, later, rfl, connection, others⟩ := exists_last_connection connected
      cases later with
      | nil => exact ⟨earlier, made, rfl, connection⟩
      | cons next rest =>
          refine absurd ⟨earlier, made, next :: rest, rfl, connection, by simp, ?_⟩ intact
          intro marking member
          have after := List.rel_of_pairwise_cons (List.pairwise_append.mp once).2.1 member
          exact ⟨others marking member, after (Mark.isEnd_of_isConnection connection)⟩
    · rintro ⟨earlier, last, rfl, connection⟩
      exact ⟨last, by simp, connection⟩

namespace Recorded

/-- After every run, the channel and the state of a name agree exactly when no initialisation has
marked the current registration since another one connected it, unless to connect it anew. -/
theorem agrees_iff_not_overwritten (dialing : Dialing) (moves : List Initialising.Move)
    (name : String) :
    let recorded := (start dialing).run moves
    recorded.state.registry.Agrees name ↔
      ∀ generation, recorded.state.registry.generation? name = some generation →
        ¬ Overwritten (recorded.history.markingsOn generation) := by
  intro recorded
  have sound := run_sound dialing moves
  cases lookup : recorded.state.registry.entryAt? name with
  | none =>
      have found : recorded.state.registry.entries.get? name = none := lookup
      simp [Registry.Agrees, Registry.channel?, Registry.state?, Registry.generation?, lookup,
        found]
  | some entry =>
      have found : recorded.state.registry.entries.get? name = some entry := lookup
      have account := sound.accounts.applied name entry lookup
      have once : (recorded.history.markingsOn entry.generation).Pairwise
          (fun earlier later => earlier.mark.isEnd = true → later.caller ≠ earlier.caller) :=
        sound.accounts.last.filter _
      have agree := marked_agrees_iff entry.target entry.generation once
      rw [← account] at agree
      simpa [Registry.Agrees, Registry.channel?, Registry.state?, Registry.generation?, lookup,
        found] using agree

/-- A target is added and connected, and then initialised once more in vain. -/
def secondAttempt : List Initialising.Move :=
  let target := { Target.ofAddress "a" "127.0.0.1:1" with authorityFile := some "ca.pem" }
  [.add target, .call "a", .init (.proceed 0), .init (.proceed 0),
    .init (.conclude 0 (.connected (Link.channel target))), .init (.proceed 0),
    .call "a", .init (.proceed 0), .init (.proceed 0),
    .init (.conclude 0 (.failed (.system (.io .noEntry)))), .init (.proceed 0)]

theorem failed_with_channel :
    let registry := ((start ⟨false, none, false⟩).run secondAttempt).state.registry
    registry.state? "a" = some (.failed "No such file or directory (os error 2)") ∧
      registry.channel? "a" = some ⟨⟨"127.0.0.1:1", true⟩, none⟩ ∧ ¬ registry.Agrees "a" := by
  decide

end Recorded

end Telemetry
