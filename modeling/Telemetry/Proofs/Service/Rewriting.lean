import Telemetry.Proofs.Notice.Coverage
import Telemetry.Proofs.Reconcile.Alignment
import Telemetry.Proofs.Service.Startup

/-!
The file of a path under rewriting. Where it is found, who watches it and under which name stay;
what it declares is another thing each time.
-/

namespace Telemetry

variable {world now : World} {path : String} {content : List UInt8}

/-- What a look-up of a path comes to. -/
structure Lookup where
  found : String
  place : List String
  watch : FileWatch
  /-- Whether the path is that of the file itself. -/
  direct : Bool

structure World.Finds (world : World) (path : String) (lookup : Lookup) : Prop where
  stands : world.files.Stands world.files.working
  finds : Layer.findFile world.files path = .ok lookup.found
  leads : ∃ bytes, Files.resolve world.files lookup.found = .ok (lookup.place, some (.file bytes))
  starts : FileWatch.start world.files path = .ok lookup.watch
  direct : Files.isFile world.files path = lookup.direct
  noticed : ∀ kind, lookup.watch.noticeOf world.files kind lookup.found =
    if lookup.direct then some ⟨NoticeKind.ofFileEvent kind, lookup.found⟩ else none

/-- The names of a declaration that can be used. -/
def Declaration.namesOf : Except Error Declaration → List String
  | .ok declaration => declaration.targets.names
  | .error _ => []

/-- The names that the file of a path declares. -/
def World.declaredNames (world : World) (path : String) : List String :=
  Declaration.namesOf (Declaration.checked (Declaration.ofFile world path))

/-- The file can be used, and all its targets can be dialled. -/
def World.IsFit (world : World) (path : String) : Prop :=
  ∃ declaration, Declaration.checked (Declaration.ofFile world path) = .ok declaration ∧
    Reconciler.AllDialable declaration

theorem World.finds_of_findFile {found : String} (stands : world.files.Stands world.files.working)
    (finds : Layer.findFile world.files path = .ok found) : ∃ lookup, world.Finds path lookup := by
  obtain ⟨directory, name, bytes, watch, leads, starts, holds, sameName⟩ :=
    Layer.watched_of_findFile stands finds
  refine ⟨⟨found, directory ++ [name], watch, Files.isFile world.files path⟩, stands, finds,
    ⟨bytes, leads⟩, starts, rfl, ?_⟩
  intro kind
  obtain ⟨_, _, samePlace, named, holdsIt⟩ := Files.resolve_file stands leads
  obtain ⟨rfl, rfl⟩ := List.append_singleton_inj.mp samePlace
  rw [FileWatch.noticeOf_eq holds holdsIt named kind]
  simp only [sameName]

namespace World.Finds

variable {lookup : Lookup}

theorem rewritten_eq (finds : world.Finds path lookup) (content : List UInt8) :
    world.rewritten path content =
      { world with files := world.files.put lookup.place (.file content) } := by
  obtain ⟨bytes, leads⟩ := finds.leads
  have written := Files.write_file finds.stands leads content
  simp only [World.rewritten, finds.finds, written]

theorem rewritten (finds : world.Finds path lookup) (content : List UInt8) :
    (world.rewritten path content).Finds path lookup := by
  obtain ⟨bytes, leads⟩ := finds.leads
  have isFile := Files.at?_of_resolve leads
  rw [finds.rewritten_eq]
  exact {
    stands := finds.stands.put isFile content
    finds := (Layer.findFile_put isFile content path).trans finds.finds
    leads := ⟨content, Files.resolve_put_file leads content⟩
    starts := (FileWatch.start_put isFile content path).trans finds.starts
    direct := (Files.isFile_put isFile content path).trans finds.direct
    noticed := fun kind =>
      (FileWatch.noticeOf_put isFile content lookup.watch kind lookup.found).trans
        (finds.noticed kind) }

theorem rewritten_rewritten (finds : world.Finds path lookup) (first second : List UInt8) :
    (world.rewritten path first).rewritten path second = world.rewritten path second := by
  rw [(finds.rewritten first).rewritten_eq, finds.rewritten_eq, finds.rewritten_eq]
  simp only [Files.Tree.put_put]

end World.Finds

/-- A world that has come of another by rewriting, with a file that is fit. -/
structure World.Suits (world : World) (path : String) (now : World) : Prop where
  arisen : now = world ∨ ∃ content, now = world.rewritten path content
  fit : now.IsFit path

namespace World.Suits

variable {lookup : Lookup}

theorem finds (suits : world.Suits path now) (finds : world.Finds path lookup) :
    now.Finds path lookup := by
  rcases suits.arisen with rfl | ⟨content, rfl⟩
  · exact finds
  · exact finds.rewritten content

theorem rewritten (suits : world.Suits path now) (finds : world.Finds path lookup)
    (fit : (world.rewritten path content).IsFit path) :
    world.Suits path (now.rewritten path content) := by
  have same : now.rewritten path content = world.rewritten path content := by
    rcases suits.arisen with rfl | ⟨earlier, rfl⟩
    · rfl
    · exact finds.rewritten_rewritten earlier content
  rw [same]
  exact ⟨.inr ⟨content, rfl⟩, fit⟩

end World.Suits

end Telemetry
