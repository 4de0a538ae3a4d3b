import Telemetry.Proofs.Registry.Agreement
import Telemetry.Proofs.Registry.PlainMap

/-!
What dial options add up to, and the limit that it sets to what a target may send. Of the options
the last limit counts, and of the others whether they are there at all; what the settings ask for
comes to the channel of every connected target.
-/

namespace Telemetry

/-- The limit that an option sets. -/
def DialOption.limit? : DialOption → Option UInt64
  | .maxReceive size => some size
  | _ => none

namespace Dialing

variable {options others : List DialOption}

theorem ofOptions_eq (options : List DialOption) :
    ofOptions options =
      ⟨decide (.block ∈ options), (options.filterMap DialOption.limit?).getLast?,
        decide (.noProxy ∉ options)⟩ := by
  induction options using List.reverseRecOn with
  | nil => rfl
  | append_singleton earlier last ih =>
      rw [ofOptions, List.foldl_append]
      change apply (ofOptions earlier) last = _
      rw [ih]
      cases last <;> simp [apply, DialOption.limit?]

/-- Options that hold the same last limit and the same others add up to the same. -/
theorem ofOptions_congr (block : .block ∈ options ↔ .block ∈ others)
    (limit : (options.filterMap DialOption.limit?).getLast? =
      (others.filterMap DialOption.limit?).getLast?)
    (noProxy : .noProxy ∈ options ↔ .noProxy ∈ others) : ofOptions options = ofOptions others := by
  simp only [ofOptions_eq, block, limit, noProxy]

theorem ofSettings_eq (settings : Settings) :
    ofSettings settings =
      ⟨true, if 0 < settings.maxMessageSize then some settings.maxMessageSize else none,
        settings.proxyFromEnvironment⟩ := by
  rw [ofSettings, Settings.dialOptions]
  cases settings.proxyFromEnvironment <;> by_cases limited : 0 < settings.maxMessageSize <;>
    simp [limited, ofOptions, apply, default]

theorem maxReceive_ofSettings {settings : Settings} {size : UInt64} :
    (ofSettings settings).maxReceive = some size ↔ settings.maxMessageSize = size ∧ 0 < size := by
  rw [ofSettings_eq]
  by_cases limited : 0 < settings.maxMessageSize
  · simp only [if_pos limited, Option.some.injEq]
    exact ⟨fun same => ⟨same, same ▸ limited⟩, And.left⟩
  · simp only [if_neg limited]
    refine ⟨nofun, ?_⟩
    rintro ⟨rfl, positive⟩
    exact absurd positive limited

end Dialing

theorem DialOption.getLast?_limits {options : List DialOption} {size : UInt64} :
    (options.filterMap limit?).getLast? = some size ↔
      ∃ earlier later, options = earlier ++ .maxReceive size :: later ∧
        ∀ other, .maxReceive other ∉ later := by
  have limitless : ∀ later : List DialOption, later.filterMap limit? = [] ↔
      ∀ other, .maxReceive other ∉ later := by
    intro later
    rw [List.filterMap_eq_nil_iff]
    constructor
    · intro none other member
      cases none _ member
    · intro absent option member
      cases option with
      | maxReceive other => exact absurd member (absent other)
      | _ => rfl
  rw [List.getLast?_eq_some_iff]
  constructor
  · rintro ⟨limits, split⟩
    obtain ⟨before, rest, rfl, _, atLast⟩ := List.filterMap_eq_append_iff.mp split
    obtain ⟨between, option, later, rfl, _, limit, none⟩ := List.filterMap_eq_cons_iff.mp atLast
    cases option with
    | maxReceive own =>
        cases limit
        exact ⟨before ++ between, later, by simp, (limitless later).mp none⟩
    | _ => cases limit
  · rintro ⟨earlier, later, rfl, absent⟩
    have limit : limit? (.maxReceive size) = some size := rfl
    refine ⟨earlier.filterMap limit?, ?_⟩
    rw [List.filterMap_append, List.filterMap_cons_some limit, (limitless later).mpr absent]

namespace Registry

variable {registry : Registry} {name : String}

@[simp] theorem dialing_update {generation : Nat} {change : Entry → Entry} :
    (registry.update name generation change).dialing = registry.dialing := by
  unfold update
  split
  · split <;> rfl
  · rfl

end Registry

namespace Initialising

theorem dialing_move (state : Initialising) (next : Move) :
    (state.move next).registry.dialing = state.registry.dialing := by
  cases next with
  | add target =>
      rcases state.add_cases target with ⟨_, _, _, moved⟩ | ⟨_, _, _, unchanged⟩
      · rw [moved]
        rfl
      · rw [unchanged]
  | delete name =>
      rcases state.delete_cases name with ⟨_, _, moved⟩ | ⟨_, _, _, unchanged⟩
      · rw [moved]
        rfl
      · rw [unchanged]
  | call name => rfl
  | init step =>
      change (state.step step).registry.dialing = _
      rcases state.step_registry_cases step with same | ⟨seen, mark, marked⟩
      · rw [same]
      · rw [marked, Registry.dialing_update]
  | signal given => rfl

theorem dialing_after (dialing : Dialing) (moves : List Move) :
    (after dialing moves).registry.dialing = dialing := by
  induction moves using List.reverseRecOn with
  | nil => rfl
  | append_singleton earlier last ih =>
      rw [after, List.foldl_append]
      exact (dialing_move _ last).trans ih

/-- A target that is marked as connected has a channel. -/
theorem channel_of_connected (dialing : Dialing) (moves : List Move) {name : String} {entry : Entry}
    (found : (after dialing moves).registry.entryAt? name = some entry)
    (connected : entry.state = .connected) : ∃ channel, entry.channel = some channel := by
  have state : ((Recorded.start dialing).run moves).state = after dialing moves :=
    Recorded.run_state _ moves
  have accounts := (Recorded.run_sound dialing moves).accounts
  rw [state] at accounts
  have account := accounts.applied name entry found
  -- the last mark is a connection, and connections leave a channel behind
  rw [account, state_marked rfl] at connected
  obtain ⟨earlier, last, split, connection⟩ := connected
  rw [account, ← Option.isSome_iff_exists, channel_marked_isSome rfl, split]
  exact ⟨last, by simp, connection⟩

/-- Dial options add up to what each of them asks for: to waiting if one asks for it, to proxies
unless one rules them out, and to the last limit. More than this does not count of the options, nor
of their order. The options of settings come down to the settings, and whatever happens to the
registry, every connected target has a channel with the limit of the settings. -/
theorem options_reach_channels (options : List DialOption) (settings : Settings)
    (moves : List Move) (name : String) :
    let added := Dialing.ofOptions options
    let dialing := Dialing.ofSettings settings
    let registry := (after dialing moves).registry
    (added.block = true ↔ .block ∈ options) ∧
      (added.proxyFromEnvironment = true ↔ .noProxy ∉ options) ∧
      (∀ size, added.maxReceive = some size ↔
        ∃ earlier later, options = earlier ++ .maxReceive size :: later ∧
          ∀ other, .maxReceive other ∉ later) ∧
      (∀ others : List DialOption, (.block ∈ options ↔ .block ∈ others) →
        (options.filterMap DialOption.limit?).getLast? =
          (others.filterMap DialOption.limit?).getLast? →
        (.noProxy ∈ options ↔ .noProxy ∈ others) → Dialing.ofOptions others = added) ∧
      dialing.block = true ∧
      dialing.proxyFromEnvironment = settings.proxyFromEnvironment ∧
      (∀ size, dialing.maxReceive = some size ↔ settings.maxMessageSize = size ∧ 0 < size) ∧
      (registry.state? name = some .connected →
        ∃ channel, registry.channel? name = some ⟨channel, dialing.maxReceive⟩) := by
  intro added dialing registry
  have sum : added = _ := Dialing.ofOptions_eq options
  have asked : dialing = _ := Dialing.ofSettings_eq settings
  refine ⟨by simp [sum], by simp [sum], fun size => ?_, fun others block limit noProxy => ?_,
    by simp [asked], by simp [asked], fun size => Dialing.maxReceive_ofSettings, ?_⟩
  · rw [sum]
    exact DialOption.getLast?_limits
  · exact (Dialing.ofOptions_congr block limit noProxy).symm
  · intro connected
    obtain ⟨entry, found, isConnected⟩ := Option.map_eq_some_iff.mp connected
    obtain ⟨channel, hasChannel⟩ := channel_of_connected dialing moves found isConnected
    refine ⟨channel, ?_⟩
    rw [Registry.channel?, found, Option.bind_some, hasChannel, dialing_after]
    rfl

/-- A target that is connected, deleted, added again and connected anew. -/
example :
    let target := { Target.ofAddress "a" "127.0.0.1:1" with insecure := some true }
    let connection : List Move := [.add target, .call "a", .init (.proceed 0), .init (.proceed 0),
      .init (.conclude 0 (.connected (Link.channel target))), .init (.proceed 0)]
    let settings := { Settings.default with maxMessageSize := 1024 }
    let registry :=
      (after (Dialing.ofSettings settings) (connection ++ .delete "a" :: connection)).registry
    registry.channel? "a" = some ⟨Link.channel target, some 1024⟩ := by
  decide

end Initialising

end Telemetry
