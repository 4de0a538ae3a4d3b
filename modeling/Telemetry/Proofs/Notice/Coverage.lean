import Telemetry.Proofs.Declaration.Origin

/-!
Whether the file that is read is the file that is watched. Both stand in the same directory, and
they have the same name unless the extension was added to find the one that is read.
-/

namespace Telemetry

variable {files later : Files.Tree} {path found spelling name : String} {place : List String}
  {bytes : List UInt8} {world : World} {loaded : Loaded} {watch : FileWatch}

namespace FileWatch

theorem start_eq (named : Files.fileName? path = some name)
    (leads : Files.resolve files (directoryOf path) = .ok (place, some .directory)) :
    start files path = .ok ⟨path, name, directoryOf path⟩ := by
  simp only [start, named, leads]

/-- A change to a file in the watched directory is passed on if the file has the watched name. -/
theorem noticeOf_eq {directory : List String}
    (watched : Files.resolve later watch.directory = .ok (directory, some .directory))
    (stands : Files.resolve later (directoryOf spelling) = .ok (directory, some .directory))
    (named : Files.fileName? spelling = some name) (kind : FileEventKind) :
    watch.noticeOf later kind spelling =
      if name = watch.fileName then some ⟨NoticeKind.ofFileEvent kind, spelling⟩ else none := by
  have covered : watch.covers later spelling = true := by
    simp only [covers, watched, stands, beq_self_eq_true]
  simp only [noticeOf, covered, if_true, forward, List.find?_cons, List.find?_nil, named]
  by_cases same : name = watch.fileName
  · simp [same]
  · have unlike : (name == watch.fileName) = false := beq_false_of_ne same
    simp [same, unlike]

section Rewriting

variable (isFile : files.at? place = some (.file bytes)) (content : List UInt8)
include isFile

theorem start_put (path : String) : start (files.put place (.file content)) path =
    start files path := by
  unfold start
  cases Files.fileName? path with
  | none => rfl
  | some name =>
      simp only [Files.resolve_put isFile]
      cases leads : Files.resolve files (directoryOf path) with
      | error fault => rfl
      | ok there =>
          obtain ⟨found, node⟩ := there
          obtain rfl := Files.at?_of_resolve leads
          simp only [Except.map]
          rcases Files.Tree.at?_put_file isFile content found with ⟨_, earlier, _, now⟩ | same
          · rw [earlier, now]
          · rw [same]

theorem noticeOf_put (watch : FileWatch) (kind : FileEventKind) (path : String) :
    watch.noticeOf (files.put place (.file content)) kind path =
      watch.noticeOf files kind path := by
  have covered : watch.covers (files.put place (.file content)) path =
      watch.covers files path := by
    unfold covers
    rw [Files.resolve_put isFile, Files.resolve_put isFile]
    cases Files.resolve files watch.directory with
    | error fault => rfl
    | ok watched =>
        cases Files.resolve files (directoryOf path) with
        | error fault => rfl
        | ok changed => rfl
  simp only [noticeOf, covered]

end Rewriting

end FileWatch

open FileWatch in
/-- The directory of a path is that of the file that is found for it, and the watch on the path goes
by the name of that file exactly when the path itself is that of a file. -/
theorem Layer.watched_of_findFile (stands : files.Stands files.working)
    (finds : Layer.findFile files path = .ok found) :
    ∃ directory name bytes watch,
      Files.resolve files found = .ok (directory ++ [name], some (.file bytes)) ∧
      FileWatch.start files path = .ok watch ∧
      Files.resolve files watch.directory = .ok (directory, some .directory) ∧
      (name = watch.fileName ↔ Files.isFile files path = true) := by
  obtain ⟨isFile, ⟨itself, rfl⟩ | ⟨missing, added⟩⟩ := Layer.findFile_cases finds
  · obtain ⟨place, bytes, leads⟩ := Files.isFile_iff.mp isFile
    obtain ⟨directory, name, rfl, named, holds⟩ := Files.resolve_file stands leads
    exact ⟨directory, name, bytes, _, leads, start_eq named holds, holds,
      iff_of_true rfl itself⟩
  · obtain ⟨place, bytes, leads⟩ := Files.isFile_iff.mp isFile
    obtain ⟨directory, name, rfl, named, holds⟩ := Files.resolve_file stands leads
    obtain ⟨front, last, cut, spoken, namedShort, ends⟩ :=
      Files.endsIn_of_withAddedText (by unfold Files.IsPlain; decide) added
    have cutLonger := Files.trimmedPieces_of_endsIn ends
    have sameDirectory : directoryOf found = directoryOf path := by
      rw [Files.directoryOf_eq cutLonger ends.spoken, Files.directoryOf_eq cut spoken]
    rw [sameDirectory] at holds
    refine ⟨directory, name, bytes, _, leads, start_eq namedShort holds, holds, ?_⟩
    refine iff_of_false ?_ (by rw [missing]; exact Bool.false_ne_true)
    intro sameName
    obtain ⟨_, lastFound, cutFound, _, _, rfl⟩ := Files.trimmedPieces_of_fileName? named
    rw [cutLonger] at cutFound
    obtain ⟨_, rfl⟩ := List.append_singleton_inj.mp cutFound
    have tooLong := congrArg (·.toList.length) sameName
    simp at tooLong

namespace Declaration

/-- Whatever path the collector was started with: a file is found for it unless there was a
fallback, and when one is found, the watch on the path starts. When this file is given another
content later, under whatever spelling of its path, the watch passes a notice on exactly when the
path is that of the file itself, without the extension added. This is said of trees as they are
here, without symbolic links, by which a file could be written under another name. -/
theorem rewriting_noticed_iff (stands : world.files.Stands world.files.working)
    (loads : load world = .ok loaded) (named : loaded.path = some path) :
    (loaded.fallback = none → ∃ found, Layer.findFile world.files path = .ok found) ∧
    ∀ found, Layer.findFile world.files path = .ok found →
      ∃ place bytes watch,
        Files.resolve world.files found = .ok (place, some (.file bytes)) ∧
        FileWatch.start world.files path = .ok watch ∧
        ∀ content : List UInt8,
          let later := world.files.put place (.file content)
          Files.resolve later found = .ok (place, some (.file content)) ∧
          ∀ kind spelling, Files.resolve later spelling = .ok (place, some (.file content)) →
            ((watch.noticeOf later kind spelling).isSome = true ↔
              Files.isFile world.files path = true) := by
  refine ⟨findFile_of_load loads named, ?_⟩
  intro found finds
  obtain ⟨directory, name, bytes, watch, leads, starts, holds, sameName⟩ :=
    Layer.watched_of_findFile stands finds
  have isFile := Files.at?_of_resolve leads
  refine ⟨directory ++ [name], bytes, watch, leads, starts, ?_⟩
  intro content later
  have watched := Files.resolve_put_directory isFile content holds
  refine ⟨Files.resolve_put_file leads content, ?_⟩
  intro kind spelling leadsThere
  obtain ⟨_, _, samePlace, namedSo, holdsIt⟩ :=
    Files.resolve_file (stands.put isFile content) leadsThere
  obtain ⟨rfl, rfl⟩ := List.append_singleton_inj.mp samePlace
  rw [FileWatch.noticeOf_eq watched holdsIt namedSo kind, ← sameName]
  by_cases same : name = watch.fileName
  · simp [same]
  · simp [same]

/-- A file that declares one target. -/
def oneTargetFile (name : String) : List UInt8 :=
  let text := "[global]\ninsecure = true\n\n[targets." ++ name ++
    "]\naddress = \"127.0.0.1:1\"\n"
  text.toUTF8.toList

def oneTarget (name : String) : Declaration :=
  ⟨{ Settings.default with insecure := true },
    NameMap.ofList [(name, { Target.default with address := "127.0.0.1:1" })]⟩

/-- A world with one file in its working directory. -/
def inDirectory (file : String) (environment : Environment) : World :=
  ⟨(Files.Tree.empty ["w"]).put ["w", file] (.file (oneTargetFile "a")), environment⟩

theorem roundabout_path_noticed :
    let world := inDirectory "c.toml" [(configPathVariable, "../w/./c.toml")]
    ∃ watch, FileWatch.start world.files "../w/./c.toml" = .ok watch ∧
      ∀ content kind, (watch.noticeOf (world.files.put ["w", "c.toml"] (.file content)) kind
        "../w/./c.toml").isSome = true := by
  intro world
  have loads : load world = .ok ⟨oneTarget "a", some "../w/./c.toml", none⟩ := by decide +kernel
  have itself : Layer.findFile world.files "../w/./c.toml" = .ok "../w/./c.toml" := by
    decide +kernel
  obtain ⟨place, bytes, watch, leads, starts, noticed⟩ :=
    (rewriting_noticed_iff (by decide +kernel) loads rfl).2 _ itself
  refine ⟨watch, starts, ?_⟩
  intro content kind
  have there : ∃ bytes, Files.resolve world.files "../w/./c.toml" =
      .ok (["w", "c.toml"], some (.file bytes)) := ⟨_, by rfl⟩
  obtain ⟨_, leadsThere⟩ := there
  rw [leadsThere] at leads
  cases leads
  exact ((noticed content).2 kind _ (noticed content).1).mpr (by decide +kernel)

/-- The file that is read has the extension added, and the watch goes by the name without it. -/
theorem added_extension_unnoticed :
    let world := inDirectory "conf.toml" [(configPathVariable, "conf")]
    ∃ loaded watch, load world = .ok loaded ∧ loaded.path = some "conf" ∧
      loaded.fallback = none ∧ Layer.findFile world.files "conf" = .ok "conf.toml" ∧
      FileWatch.start world.files "conf" = .ok watch ∧
      ∀ content kind, watch.noticeOf (world.files.put ["w", "conf.toml"] (.file content)) kind
        "conf.toml" = none := by
  intro world
  refine ⟨⟨oneTarget "a", some "conf", none⟩, ⟨"conf", "conf", "."⟩, by decide +kernel, rfl, rfl,
    by decide +kernel, by decide +kernel, ?_⟩
  intro content kind
  have otherName : Files.fileName? "conf.toml" ≠ some "conf" := by decide
  simp [FileWatch.noticeOf, FileWatch.forward, otherName]

end Declaration

end Telemetry
