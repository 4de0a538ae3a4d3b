import Telemetry.Proofs.Declaration.Defaults
import Telemetry.Proofs.Service.Upkeep

/-!
A registry that is in line with its file from the start. What the first pass reads is the file as it
is then; what is written between this reading and the watch is not read before something more is
reported.
-/

namespace Telemetry

open Reconciler (Alike Journal Placed ReadFrom Underway)

namespace Startup

variable {world now first : World} {path : String} {lookup : Lookup}
  {state later : Reconciler PlacedSource Registry InitTask} {reports : List (Nat × Notice)}
  {journal : Journal PlacedSource Registry InitTask}

/-- The first pass before or after it has read the file. -/
structure InPass (world : World) (path : String) (first : Option World)
    (program : PassProgram (Option Report))
    (state : Reconciler PlacedSource Registry InitTask) : Prop where
  placed : state.Placed world path
  shape : program = Pass.program ∨ ∃ seen, first = some seen ∧ Underway seen path program state

/-- What the first pass leaves. -/
structure Rested (world : World) (path : String) (first : Option World)
    (state : Reconciler PlacedSource Registry InitTask) : Prop where
  placed : state.Placed world path
  read : ∃ seen, first = some seen ∧ state.ReadFrom seen path
  inLine : state.InLine

theorem InPass.alike {first : Option World} {program : PassProgram (Option Report)}
    (inPass : InPass world path first program state) (alike : Alike state later)
    (placed : later.Placed world path) : InPass world path first program later where
  placed := placed
  shape := by
    rcases inPass.shape with unread | ⟨seen, same, underway⟩
    · exact .inl unread
    · exact .inr ⟨seen, same, underway.alike alike⟩

theorem Rested.alike {first : Option World} (rested : Rested world path first state)
    (alike : Alike state later) (placed : later.Placed world path) :
    Rested world path first later where
  placed := placed
  read := by
    obtain ⟨seen, same, readFrom⟩ := rested.read
    exact ⟨seen, same, readFrom.alike alike⟩
  inLine := alike.inLine rested.inLine

/-- What holds at each stage of a start. -/
def Stage.Sound (world : World) (path : String) (lookup : Lookup) (first : Option World) :
    Stage → Prop
  | .loaded now => world.Suits path now
  | .passing state program => InPass world path first program state
  | .passed state => Rested world path first state
  | .served state => Rested world path first state
  | .watching watches reports journal => watches = [lookup.watch] ∧
      ∃ seen, first = some seen ∧ KeepsUp world path lookup seen reports journal

structure Sound (world : World) (path : String) (lookup : Lookup) (startup : Startup) : Prop where
  finds : world.Finds path lookup
  named : startup.loaded.path = some path
  stage : startup.stage.Sound world path lookup startup.first

/-- A step can happen in the start: what it writes to the file is fit, and the system tells of the
writing as such. -/
def Step.Fits (world : World) (path : String) : Step → Prop
  | .rewrite kind content => (world.rewritten path content).IsFit path ∧
      (NoticeKind.ofFileEvent kind).triggersPass = true
  | _ => True

namespace Sound

variable {startup : Startup}

theorem path_eq (sound : startup.Sound world path lookup) : startup.path = path := by
  rw [Startup.path, sound.named]
  rfl

/-- The watch begins in the world of the moment. -/
theorem watching_sound (finds : world.Finds path lookup) (placed : state.Placed world path)
    (readFrom : state.ReadFrom first path) (inLine : state.InLine) :
    let service := startup.watchingService state
    service.watches = [lookup.watch] ∧
      KeepsUp world path lookup first [] (Journal.begin service.watched) := by
  have starts := (placed.suits.finds finds).starts
  have configured : (startup.service state).configPath = some path := placed.named
  have watching : (startup.launch state.source.world).watching (startup.service state) =
      Service.noting ⟨startup.loaded.declaration,
        ⟨state, none, [Watcher.start], false, []⟩, [lookup.watch], [0], [], []⟩
          [⟨.info, .watcher, "watching config file " ++ path⟩] := by
    simp only [Launch.watching, Service.watch, configured, launch, starts]
    rfl
  intro service
  obtain ⟨log, begun⟩ : ∃ log, service = ⟨startup.loaded.declaration,
      ⟨{ state with log := log }, none, [Watcher.start], false, []⟩, [lookup.watch], [0], [],
        []⟩ := by
    simp only [service, watchingService, watching]
    exact ⟨_, rfl⟩
  rw [begun]
  exact ⟨rfl, .begin ⟨placed.named, placed.suits⟩ readFrom inLine⟩

theorem proceed (sound : startup.Sound world path lookup) (listen : Admin.Listen) :
    (startup.proceed listen).Sound world path lookup := by
  obtain ⟨finds, named, stage⟩ := sound
  obtain ⟨loaded, reached, first⟩ := startup
  cases reached with
  | loaded now => exact ⟨finds, named, ⟨named, stage⟩, .inl rfl⟩
  | passing state program =>
      obtain ⟨placed, shape⟩ := stage
      cases program with
      | done result =>
          rcases shape with unread | ⟨seen, same, underway⟩
          · rw [Pass.program_eq] at unread
            cases unread
          · exact ⟨finds, named, ⟨placed.named, placed.suits⟩, ⟨seen, same, underway.readFrom⟩,
              underway.inLine⟩
      | ask question next =>
          rcases shape with unread | ⟨seen, same, underway⟩
          · rw [Pass.program_eq] at unread
            cases unread
            obtain ⟨placed, underway⟩ := placed.read
            exact ⟨finds, named, placed, .inr ⟨_, rfl, underway⟩⟩
          · have unread := Reconciler.reading_settled underway.settled state
            refine ⟨finds, named, placed.ask underway.settled.1, .inr ⟨seen, ?_, underway.ask⟩⟩
            simp only [Startup.proceed, unread]
            exact same
  | passed state =>
      obtain ⟨entries, admin⟩ :=
        startAdmin_eq listen (Startup.service ⟨loaded, .passed state, first⟩ state)
      simp only [Startup.proceed, admin]
      exact ⟨finds, named, ⟨stage.placed.named, stage.placed.suits⟩, stage.read, stage.inLine⟩
  | served state =>
      obtain ⟨placed, ⟨seen, same, readFrom⟩, inLine⟩ := stage
      obtain ⟨watches, keeps⟩ := @watching_sound _ _ _ _ _ ⟨loaded, .served state, first⟩ finds
        placed readFrom inLine
      exact ⟨finds, named, watches, seen, same, keeps⟩
  | watching watches reports journal => exact ⟨finds, named, stage⟩

theorem rewrite (sound : startup.Sound world path lookup) {kind : FileEventKind}
    {content : List UInt8} (fit : (world.rewritten path content).IsFit path)
    (triggers : (NoticeKind.ofFileEvent kind).triggersPass = true) :
    (startup.step (.rewrite kind content)).Sound world path lookup := by
  have samePath := sound.path_eq
  obtain ⟨finds, named, stage⟩ := sound
  obtain ⟨loaded, reached, first⟩ := startup
  refine ⟨finds, named, ?_⟩
  simp only [Startup.step, atStage, samePath]
  have placedThen {state : Reconciler PlacedSource Registry InitTask}
      (placed : state.Placed world path) :=
    placed.in_world (placed.suits.rewritten finds fit)
  cases reached with
  | loaded now => exact stage.rewritten finds fit
  | passing state program => exact stage.alike (.in_world state _) (placedThen stage.placed)
  | passed state => exact stage.alike (.in_world state _) (placedThen stage.placed)
  | served state => exact stage.alike (.in_world state _) (placedThen stage.placed)
  | watching watches reports journal =>
      obtain ⟨rfl, seen, same, keeps⟩ := stage
      exact ⟨rfl, seen, same, keeps.rewrite finds fit triggers⟩

theorem report (sound : startup.Sound world path lookup) (kind : FileEventKind) :
    (startup.step (.report kind)).Sound world path lookup := by
  have samePath := sound.path_eq
  obtain ⟨finds, named, stage⟩ := sound
  obtain ⟨loaded, reached, first⟩ := startup
  refine ⟨finds, named, ?_⟩
  simp only [Startup.step, atStage, samePath]
  cases reached with
  | watching watches reports journal =>
      obtain ⟨rfl, seen, same, keeps⟩ := stage
      exact ⟨rfl, seen, same, keeps.report finds kind⟩
  | _ => exact stage

theorem deliver (sound : startup.Sound world path lookup) :
    (startup.step .deliver).Sound world path lookup := by
  obtain ⟨finds, named, stage⟩ := sound
  obtain ⟨loaded, reached, first⟩ := startup
  refine ⟨finds, named, ?_⟩
  cases reached with
  | watching watches reports journal =>
      obtain ⟨rfl, seen, same, keeps⟩ := stage
      cases reports with
      | nil => exact ⟨rfl, seen, same, keeps⟩
      | cons report rest =>
          simp only [Startup.step, atStage, Stage.deliver]
          cases accepted : journal.accepts report.1 with
          | false => exact ⟨rfl, seen, same, keeps⟩
          | true => exact ⟨rfl, seen, same, keeps.deliver rfl accepted⟩
  | _ => exact stage

theorem beside (sound : startup.Sound world path lookup)
    (disturbance : Reconciler.Disturbance) :
    (startup.step (.beside disturbance)).Sound world path lookup := by
  obtain ⟨finds, named, stage⟩ := sound
  obtain ⟨loaded, reached, first⟩ := startup
  refine ⟨finds, named, ?_⟩
  have alike (state : Reconciler PlacedSource Registry InitTask) :=
    Alike.of_steady (disturbance.steady state)
  cases reached with
  | loaded now => exact stage
  | passing state program =>
      exact stage.alike (alike state) (stage.placed.steady (disturbance.steady state))
  | passed state =>
      exact stage.alike (alike state) (stage.placed.steady (disturbance.steady state))
  | served state =>
      exact stage.alike (alike state) (stage.placed.steady (disturbance.steady state))
  | watching watches reports journal =>
      obtain ⟨rfl, seen, same, keeps⟩ := stage
      exact ⟨rfl, seen, same, keeps.beside disturbance⟩

/-- What only happens once the file is watched. -/
theorem watchOn (sound : startup.Sound world path lookup)
    {step : Reconciler.JournalStep PlacedSource Registry InitTask}
    (kept : ∀ {seen reports journal}, KeepsUp world path lookup seen reports journal →
      KeepsUp world path lookup seen reports (journal.step step)) :
    (startup.atStage (startup.stage.watchOn step)).Sound world path lookup := by
  obtain ⟨finds, named, stage⟩ := sound
  obtain ⟨loaded, reached, first⟩ := startup
  refine ⟨finds, named, ?_⟩
  cases reached with
  | watching watches reports journal =>
      obtain ⟨rfl, seen, same, keeps⟩ := stage
      exact ⟨rfl, seen, same, kept keeps⟩
  | _ => exact stage

theorem step (sound : startup.Sound world path lookup) {step : Step}
    (fits : step.Fits world path) : (startup.step step).Sound world path lookup := by
  cases step with
  | proceed listen => exact sound.proceed listen
  | rewrite kind content => exact sound.rewrite fits.1 fits.2
  | report kind => exact sound.report kind
  | deliver => exact sound.deliver
  | watcher index => exact sound.watchOn fun keeps => keeps.advance (Journal.advanced _ index)
  | beside disturbance => exact sound.beside disturbance
  | shutdown => exact sound.watchOn fun keeps => keeps.shutdown

theorem run (sound : startup.Sound world path lookup) {steps : List Step}
    (fit : ∀ step ∈ steps, step.Fits world path) :
    (startup.run steps).Sound world path lookup := by
  induction steps generalizing startup with
  | nil => exact sound
  | cons first rest ih =>
      exact ih (sound.step (fit first List.mem_cons_self))
        fun step member => fit step (List.mem_cons_of_mem _ member)

end Sound

/-- What has come of a start when all that was reported has been handled. -/
def atRest? (startup : Startup) : Option (Journal PlacedSource Registry InitTask) :=
  match startup.stage with
  | .watching _ [] journal =>
      if journal.watched.watchers.all (fun watcher =>
        watcher.queue.isEmpty && watcher.taken.isNone) then some journal
      else none
  | _ => none

theorem watching_of_atRest? {startup : Startup} (atRest : startup.atRest? = some journal) :
    (∃ watches, startup.stage = .watching watches [] journal) ∧
      ∀ watcher ∈ journal.watched.watchers, watcher.queue = [] ∧ watcher.taken = none := by
  unfold atRest? at atRest
  split at atRest
  · rename_i watches resting stage
    split at atRest
    · rename_i each
      cases atRest
      refine ⟨⟨watches, stage⟩, ?_⟩
      intro watcher member
      have idle := List.all_eq_true.mp each watcher member
      simpa using idle
    · cases atRest
  · cases atRest

/-- A start from a file that can be used, and that is given fit contents at any moments. Once all
that was reported has been handled, the registry is in line with the file exactly when the file was
read again since it is watched, or else declares the same names as when the first pass read it. It
was read again if it was rewritten since it is watched and its path is the one that was loaded. -/
theorem in_line_iff {loaded : Loaded} {steps : List Step}
    (stands : world.files.Stands world.files.working)
    (loads : Declaration.load world = .ok loaded) (named : loaded.path = some path)
    (used : loaded.fallback = none) (dialable : Reconciler.AllDialable loaded.declaration)
    (fits : ∀ step ∈ steps, step.Fits world path)
    (atRest : ((begin loaded world).run steps).atRest? = some journal) :
    ∃ first, ((begin loaded world).run steps).first = some first ∧
      let present := journal.watched.state.source.world
      ((∀ name, name ∈ journal.watched.state.registry.names ↔ name ∈ present.declaredNames path) ↔
        journal.readings ≠ [] ∨
          ∀ name, name ∈ first.declaredNames path ↔ name ∈ present.declaredNames path) ∧
      (journal.readings ≠ [] → Files.isFile world.files path = true) ∧
      (Files.isFile world.files path = true → 0 < journal.rewritings → journal.readings ≠ []) := by
  obtain ⟨found, finds⟩ := Declaration.findFile_of_load loads named used
  obtain ⟨lookup, finds⟩ := World.finds_of_findFile stands finds
  have fit : world.IsFit path :=
    ⟨loaded.declaration, Declaration.checked_of_load loads named used, dialable⟩
  have begun : (begin loaded world).Sound world path lookup := ⟨finds, named, .inl rfl, fit⟩
  obtain ⟨_, _, stage⟩ := begun.run fits
  obtain ⟨⟨watches, watching⟩, resting⟩ := watching_of_atRest? atRest
  rw [watching] at stage
  obtain ⟨_, first, isFirst, keeps⟩ := stage
  have names := keeps.mem_names_of_resting resting
  refine ⟨first, isFirst, ⟨?_, ?_⟩, ?_, ?_⟩
  · intro inLine
    by_cases again : journal.readings = []
    · -- What is live is still what the first pass has read.
      rw [Journal.lastWorld_of_unread again] at names
      exact .inr fun name => (names name).symm.trans (inLine name)
    · exact .inl again
  · intro reason name
    by_cases again : journal.readings = []
    · rw [Journal.lastWorld_of_unread again] at names
      exact (names name).trans (reason.resolve_left (· again) name)
    · rw [names, keeps.lastWorld_of_read resting again]
  · intro again
    rw [finds.direct]
    exact keeps.direct_of_read again
  · intro direct rewritten again
    rw [finds.direct] at direct
    obtain ⟨last, isLast, _⟩ := keeps.read_of_rewritten resting direct rewritten
    rw [again] at isLast
    cases isLast

/-- A start in which the file is rewritten between the first pass and the watch. -/
def rewrittenBetween : List Step :=
  List.replicate 8 (.proceed .ok) ++ [.rewrite (.modify .any) (Declaration.oneTargetFile "b")] ++
    List.replicate 2 (.proceed .ok)

/-- The same with another rewriting since, of which the watcher hears. -/
def rewrittenSince : List Step :=
  rewrittenBetween ++ [.rewrite (.modify .any) (Declaration.oneTargetFile "b"), .deliver] ++
    List.replicate 16 (.watcher 0)

theorem rewrittenSince_fits :
    let world := Declaration.inDirectory "collector.toml" []
    ∀ step ∈ rewrittenSince, step.Fits world "collector.toml" := by
  intro world
  have again : Declaration.checked (Declaration.ofFile
      (world.rewritten "collector.toml" (Declaration.oneTargetFile "b")) "collector.toml") =
        .ok (Declaration.oneTarget "b") := by
    rw [Declaration.ofFile_eq]
    decide +kernel
  have fits : Step.Fits world "collector.toml"
      (.rewrite (.modify .any) (Declaration.oneTargetFile "b")) :=
    ⟨⟨_, again, by decide +kernel⟩, rfl⟩
  intro step member
  simp only [rewrittenSince, rewrittenBetween, List.mem_append, List.mem_replicate,
    List.mem_cons, List.not_mem_nil, or_false] at member
  rcases member with (((⟨_, rfl⟩ | rfl) | ⟨_, rfl⟩) | (rfl | rfl)) | ⟨_, rfl⟩
  · trivial
  · exact fits
  · trivial
  · exact fits
  · trivial
  · trivial

theorem load_oneTarget : Declaration.load (Declaration.inDirectory "collector.toml" []) =
    .ok ⟨Declaration.oneTarget "a", some "collector.toml", none⟩ := by
  simp only [Declaration.load, Declaration.loadImplicit, Declaration.ofFile_eq]
  decide +kernel

theorem oneTarget_dialable : Reconciler.AllDialable (Declaration.oneTarget "a") := by
  decide +kernel

theorem rewritten_since_in_line :
    let world := Declaration.inDirectory "collector.toml" []
    let loaded : Loaded := ⟨Declaration.oneTarget "a", some "collector.toml", none⟩
    ∃ journal, ((begin loaded world).run rewrittenSince).atRest? = some journal ∧
      ∀ name, name ∈ journal.watched.state.registry.names ↔
        name ∈ journal.watched.state.source.world.declaredNames "collector.toml" := by
  intro world loaded
  have handled : (((begin loaded world).run rewrittenSince).atRest?).map (·.rewritings) =
      some 1 := by decide +kernel
  obtain ⟨journal, atRest, once⟩ := Option.map_eq_some_iff.mp handled
  have rewritten : 0 < journal.rewritings := Nat.lt_of_lt_of_eq Nat.one_pos once.symm
  have itself : Files.isFile world.files "collector.toml" = true := by decide +kernel
  obtain ⟨_, _, inLine, _, readAgain⟩ :=
    in_line_iff (by decide +kernel) load_oneTarget rfl rfl oneTarget_dialable rewrittenSince_fits
      atRest
  exact ⟨journal, atRest, inLine.mpr (.inl (readAgain itself rewritten))⟩

/-- Nobody is told of what is written between the first pass and the watch. -/
theorem rewritten_between_lost :
    let world := Declaration.inDirectory "collector.toml" []
    let loaded : Loaded := ⟨Declaration.oneTarget "a", some "collector.toml", none⟩
    Declaration.load world = .ok loaded ∧ Reconciler.AllDialable loaded.declaration ∧
      (∀ step ∈ rewrittenBetween, step.Fits world "collector.toml") ∧
      ((begin loaded world).run rewrittenBetween).atRest?.map (fun journal =>
        (journal.watched.state.registry.names,
          journal.watched.state.source.world.declaredNames "collector.toml")) =
            some (["a"], ["b"]) := by
  intro world loaded
  refine ⟨load_oneTarget, oneTarget_dialable, ?_, by decide +kernel⟩
  intro step member
  exact rewrittenSince_fits step (List.mem_append_left _ (List.mem_append_left _ member))

end Startup

end Telemetry
