import Telemetry.Proofs.Files.Following
import Telemetry.Declaration.Loading

/-!
The file that a declaration is loaded from. The path that is given is the path that is kept, while
the file that is read may be another one, with the extension added.
-/

namespace Telemetry

variable {files : Files.Tree} {path found : String} {world : World}

theorem Files.isFile_iff :
    isFile files path = true ↔
      ∃ place bytes, resolve files path = .ok (place, some (.file bytes)) := by
  constructor
  · intro is
    unfold isFile node? at is
    split at is
    · rename_i bytes led
      split at led
      · rename_i place node leads
        cases led
        exact ⟨place, bytes, leads⟩
      · cases led
    · cases is
  · rintro ⟨place, bytes, leads⟩
    simp [isFile, node?, leads]

theorem Layer.findFile_cases (finds : findFile files path = .ok found) :
    Files.isFile files found = true ∧
      (Files.isFile files path = true ∧ found = path ∨
        Files.isFile files path = false ∧ Files.withAddedText path ".toml" = some found) := by
  unfold findFile at finds
  split at finds
  · rename_i isFile
    split at finds
    · cases finds
      exact ⟨isFile, .inl ⟨isFile, rfl⟩⟩
    · cases finds
  · rename_i isFile
    split at finds
    · cases finds
    · rename_i longer added
      split at finds
      · rename_i exists_
        cases finds
        exact ⟨exists_, .inr ⟨Bool.not_eq_true _ ▸ isFile, added⟩⟩
      · cases finds

/-- Giving a file another content makes and removes no file. -/
theorem Files.isFile_put {place : List String} {bytes : List UInt8}
    (isFile : files.at? place = some (.file bytes)) (content : List UInt8) (path : String) :
    Files.isFile (files.put place (.file content)) path = Files.isFile files path := by
  unfold Files.isFile node?
  rw [resolve_put isFile]
  cases leads : resolve files path with
  | error fault => rfl
  | ok found =>
      obtain ⟨there, node⟩ := found
      obtain rfl := at?_of_resolve leads
      simp only [Except.map]
      rcases Tree.at?_put_file isFile content there with ⟨_, earlier, _, later⟩ | same
      · rw [earlier, later]
      · rw [same]

theorem Layer.findFile_put {place : List String} {bytes : List UInt8}
    (isFile : files.at? place = some (.file bytes)) (content : List UInt8) (path : String) :
    findFile (files.put place (.file content)) path = findFile files path := by
  simp only [findFile, Files.isFile_put isFile]

theorem Layer.findFile_of_fileLayer {entries : Layer.Entries}
    (reads : fileLayer files path = .ok entries) : ∃ found, findFile files path = .ok found := by
  unfold fileLayer at reads
  split at reads
  · cases reads
  · rename_i found finds
    exact ⟨found, finds⟩

namespace Declaration

variable {declaration : Declaration} {loaded : Loaded}

theorem ok_of_checked {attempt : Except ConfigError Declaration}
    (valid : checked attempt = .ok declaration) : ∃ read, attempt = .ok read := by
  cases attempt with
  | error reason => cases valid
  | ok read => exact ⟨read, rfl⟩

theorem findFile_of_ofFile (reads : ofFile world path = .ok declaration) :
    ∃ found, Layer.findFile world.files path = .ok found := by
  unfold ofFile overriddenBy at reads
  cases base : Layer.base Declaration.default with
  | error reason =>
      rw [base] at reads
      cases reads
  | ok entries =>
      cases layer : Layer.fileLayer world.files path with
      | error reason =>
          rw [base, layer] at reads
          cases reads
      | ok own => exact Layer.findFile_of_fileLayer layer

/-- What is loaded with a path and no fallback is what the file of the path declares. -/
theorem checked_of_load (loads : load world = .ok loaded) (named : loaded.path = some path)
    (used : loaded.fallback = none) : checked (ofFile world path) = .ok loaded.declaration := by
  unfold load at loads
  split at loads
  · split at loads
    · rename_i declaration valid
      cases loads
      cases named
      exact valid
    · cases loads
  · unfold loadImplicit at loads
    split at loads
    · split at loads
      · rename_i declaration valid
        cases loads
        cases named
        exact valid
      · split at loads <;> cases loads
        cases used
    · split at loads <;> cases loads
      cases named

theorem findFile_of_load (loads : load world = .ok loaded) (named : loaded.path = some path)
    (used : loaded.fallback = none) : ∃ found, Layer.findFile world.files path = .ok found := by
  obtain ⟨read, reads⟩ := ok_of_checked (checked_of_load loads named used)
  exact findFile_of_ofFile reads

end Declaration

end Telemetry
