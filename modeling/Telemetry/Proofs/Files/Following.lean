import Telemetry.Proofs.Files.Naming
import Telemetry.Proofs.NameMap

/-!
Where a path leads. A path to a file leads through the directory that its text spells, and it leads
there still when the file is given another content.
-/

namespace Telemetry.Files

variable {tree : Tree} {place start found names : List String} {name path : String}
  {node : Option Node} {bytes : List UInt8}

/-- A directory that is reached from the root through directories. -/
def Tree.Stands (tree : Tree) (place : List String) : Prop :=
  ∀ count, tree.at? (place.take count) = some .directory

/-- Beyond the place itself there is nothing to look at. -/
theorem Tree.stands_iff :
    tree.Stands place ↔
      ∀ count < place.length + 1, tree.at? (place.take count) = some .directory := by
  constructor
  · exact fun stands count _ => stands count
  · intro upTo count
    by_cases within : count < place.length + 1
    · exact upTo count within
    · have whole := upTo place.length (Nat.lt_succ_self _)
      rw [List.take_length] at whole
      rw [List.take_of_length_le (by omega)]
      exact whole

instance (tree : Tree) (place : List String) : Decidable (tree.Stands place) :=
  decidable_of_iff _ Tree.stands_iff.symm

namespace Tree.Stands

theorem directory (stands : tree.Stands place) : tree.at? place = some .directory := by
  have whole := stands place.length
  rw [List.take_length] at whole
  exact whole

theorem root (tree : Tree) : tree.Stands [] := by
  intro count
  rw [List.take_nil]
  rfl

theorem above (stands : tree.Stands place) : tree.Stands place.dropLast := by
  intro count
  rw [List.dropLast_eq_take, List.take_take]
  exact stands _

theorem below (stands : tree.Stands place)
    (isDirectory : tree.at? (place ++ [name]) = some .directory) :
    tree.Stands (place ++ [name]) := by
  intro count
  by_cases within : count ≤ place.length
  · rw [List.take_append_of_le_length within]
    exact stands count
  · have whole : (place ++ [name]).take count = place ++ [name] :=
      List.take_of_length_le (by simp; omega)
    rw [whole]
    exact isDirectory

theorem step (stands : tree.Stands place)
    (isDirectory : tree.at? (Files.step place name) = some .directory) :
    tree.Stands (Files.step place name) := by
  unfold Files.step at isDirectory ⊢
  split
  · exact stands.above
  · rename_i downwards
    rw [if_neg downwards] at isDirectory
    exact stands.below isDirectory

end Tree.Stands

theorem follow_cons (leads : follow tree place (name :: names) = .ok (found, node)) :
    tree.at? place = some .directory ∧ name.utf8ByteSize ≤ longestName ∧
      follow tree (step place name) names = .ok (found, node) := by
  rw [follow] at leads
  split at leads
  · cases leads
  · cases leads
  · rename_i isDirectory
    split at leads
    · cases leads
    · exact ⟨isDirectory, by omega, leads⟩

/-- The last name is looked up in a directory to which the names before it lead. -/
theorem follow_concat (stands : tree.Stands place)
    (leads : follow tree place (names ++ [name]) = .ok (found, node)) :
    ∃ directory, tree.Stands directory ∧
      follow tree place names = .ok (directory, some .directory) ∧
      found = step directory name ∧ node = tree.at? found := by
  induction names generalizing place with
  | nil =>
      obtain ⟨isDirectory, _, there⟩ := follow_cons leads
      rw [follow] at there
      cases there
      exact ⟨place, stands, by rw [follow, isDirectory], rfl, rfl⟩
  | cons first rest ih =>
      obtain ⟨isDirectory, short, onwards⟩ := follow_cons leads
      have entered : tree.at? (step place first) = some .directory := by
        cases rest with
        | nil => exact (follow_cons onwards).1
        | cons second others => exact (follow_cons onwards).1
      obtain ⟨directory, stands, leadsThere, rest⟩ := ih (stands.step entered) onwards
      refine ⟨directory, stands, ?_, rest⟩
      rw [follow, isDirectory]
      simp only [if_neg (Nat.not_lt.mpr short)]
      exact leadsThere

/-- Where the names of a path are followed from. -/
def Tree.base (tree : Tree) (path : String) : List String :=
  if isAbsolute path then [] else tree.working

/-- A text that the system takes for a path. -/
structure IsUsable (path : String) : Prop where
  noNul : path.toList.contains (Char.ofNat 0) = false
  nonempty : path ≠ ""
  short : path.utf8ByteSize ≤ longestPath

theorem IsUsable.shorter {longer rest : String} (usable : IsUsable longer)
    (parts : longer = path ++ rest) (nonempty : path ≠ "") : IsUsable path where
  noNul := by
    have none := usable.noNul
    rw [parts, String.toList_append, List.contains_eq_any_beq, List.any_append,
      Bool.or_eq_false_iff, ← List.contains_eq_any_beq] at none
    exact none.1
  nonempty := nonempty
  short := by
    have few := usable.short
    rw [parts, String.utf8ByteSize_append] at few
    omega

theorem isUsable_of_resolve (leads : resolve tree path = .ok (place, node)) : IsUsable path := by
  unfold resolve at leads
  split at leads
  · cases leads
  · rename_i noNul
    split at leads
    · cases leads
    · rename_i nonempty
      split at leads
      · cases leads
      · rename_i short
        exact ⟨Bool.not_eq_true _ ▸ noNul, nonempty, Nat.not_lt.mp short⟩

theorem resolve_unusable (unusable : ¬ IsUsable path) :
    ∃ fault, ∀ tree, resolve tree path = .error fault := by
  by_cases nul : path.toList.contains (Char.ofNat 0) = true
  · exact ⟨.nulByte, fun tree => by rw [resolve, if_pos nul]⟩
  · by_cases empty : path = ""
    · exact ⟨.noEntry, fun tree => by rw [resolve, if_neg nul, if_pos empty]⟩
    · have long : longestPath < path.utf8ByteSize := Nat.not_le.mp fun short =>
        unusable ⟨Bool.not_eq_true _ ▸ nul, empty, short⟩
      exact ⟨.nameTooLong, fun tree => by rw [resolve, if_neg nul, if_neg empty, if_pos long]⟩

/-- What is made of the place to which the names of a path lead. -/
def arriving (path : String) : List String × Option Node → Except Fault (List String × Option Node)
  | (place, some (.file bytes)) =>
      if endsAsDirectory path then .error .notDirectory else .ok (place, some (.file bytes))
  | found => .ok found

theorem eq_of_arriving {there arrived : List String × Option Node}
    (arrives : arriving path there = .ok arrived) : arrived = there := by
  obtain ⟨place, _ | _ | _⟩ := there
  · cases arrives
    rfl
  · change (if endsAsDirectory path then _ else _) = _ at arrives
    split at arrives
    · cases arrives
    · cases arrives
      rfl
  · cases arrives
    rfl

theorem resolve_eq (usable : IsUsable path) :
    resolve tree path = (follow tree (tree.base path) (segments path)).bind (arriving path) := by
  unfold resolve
  rw [if_neg (by rw [usable.noNul]; exact Bool.false_ne_true), if_neg usable.nonempty,
    if_neg (Nat.not_lt.mpr usable.short)]
  change _ = Except.bind (follow tree (if isAbsolute path then [] else tree.working) _) _
  cases follow tree (if isAbsolute path then [] else tree.working) (segments path) with
  | error fault => rfl
  | ok found =>
      obtain ⟨place, _ | _ | _⟩ := found <;> rfl

theorem follow_of_resolve_file (leads : resolve tree path = .ok (place, some (.file bytes))) :
    endsAsDirectory path = false ∧
      follow tree (tree.base path) (segments path) = .ok (place, some (.file bytes)) := by
  rw [resolve_eq (isUsable_of_resolve leads)] at leads
  cases followed : follow tree (tree.base path) (segments path) with
  | error fault =>
      rw [followed] at leads
      cases leads
  | ok found =>
      rw [followed] at leads
      obtain ⟨there, _ | _ | _⟩ := found
      · cases leads
      · change (if endsAsDirectory path then _ else _) = _ at leads
        split at leads
        · cases leads
        · rename_i named
          cases leads
          exact ⟨Bool.not_eq_true _ ▸ named, rfl⟩
      · cases leads

theorem endsIn_of_not_endsAsDirectory (named : endsAsDirectory path = false) :
    ∃ front last, EndsIn path front last := by
  unfold endsAsDirectory at named
  split at named
  · rename_i last isLast
    obtain ⟨front, cut⟩ := List.getLast?_eq_some_iff.mp isLast
    exact ⟨front, last, cut, named⟩
  · rename_i nothing
    exact absurd (List.getLast?_eq_none_iff.mp nothing) (piecesOf_ne_nil path)

theorem IsUsable.directoryText {front : List (List Char)} {last : List Char}
    (usable : IsUsable path) (ends : EndsIn path front last) : IsUsable (directoryText front) := by
  rcases directoryText_cases ends with point | root | ⟨nonempty, rest, longer⟩
  · rw [point]
    exact ⟨by decide, by decide, by decide⟩
  · rw [root]
    exact ⟨by decide, by decide, by decide⟩
  · exact usable.shorter longer nonempty

/-- A file stands, under the last name of its path, in the directory of the path. -/
theorem resolve_file (stands : tree.Stands tree.working)
    (leads : resolve tree path = .ok (place, some (.file bytes))) :
    ∃ directory name, place = directory ++ [name] ∧ fileName? path = some name ∧
      resolve tree (FileWatch.directoryOf path) = .ok (directory, some .directory) := by
  have usable := isUsable_of_resolve leads
  obtain ⟨named, followed⟩ := follow_of_resolve_file leads
  obtain ⟨front, last, ends⟩ := endsIn_of_not_endsAsDirectory named
  have cut := trimmedPieces_of_endsIn ends
  have plain : ∀ piece ∈ front, IsPlain piece := by
    intro piece member
    have inPath := ends.pieces ▸ List.mem_append_left [last] member
    exact isPlain_of_mem inPath
  have base : tree.Stands (tree.base path) := by
    unfold Tree.base
    split
    · exact .root tree
    · exact stands
  have names : segments path = namesIn front ++ [String.ofList last] := by
    rw [segments_eq, ends.pieces, namesIn_append, namesIn_singleton, ends.spoken]
    rfl
  rw [names] at followed
  obtain ⟨directory, standsThere, leadsThere, rfl, isFile⟩ := follow_concat base followed
  have downwards : String.ofList last ≠ ".." := by
    intro upwards
    rw [step, if_pos upwards, standsThere.above.directory] at isFile
    cases isFile
  have notPoints : last ≠ ['.', '.'] := by
    rintro rfl
    exact downwards rfl
  refine ⟨directory, String.ofList last, if_neg downwards,
    fileName?_eq cut ends.spoken notPoints, ?_⟩
  rw [directoryOf_eq cut ends.spoken]
  have sameBase : tree.base (directoryText front) = tree.base path := by
    rw [Tree.base, Tree.base, isAbsolute_directoryText ends]
  rw [resolve_eq (usable.directoryText ends), sameBase, segments_directoryText plain, leadsThere]
  rfl

theorem Tree.at?_put (tree : Tree) (names other : List String) (node : Node) :
    (tree.put names node).at? other =
      if other ≠ [] ∧ joinNames other = joinNames names then some node else tree.at? other := by
  cases other with
  | nil => rfl
  | cons first rest =>
      simp only [Tree.at?, Tree.put, List.isEmpty_cons, Bool.false_eq_true, if_false,
        NameMap.get?_insert]
      simp

theorem follow_node (leads : follow tree start names = .ok (found, node)) :
    node = tree.at? found := by
  induction names generalizing start with
  | nil =>
      rw [follow] at leads
      cases leads
      rfl
  | cons name rest ih => exact ih (follow_cons leads).2.2

theorem at?_of_resolve (leads : resolve tree path = .ok (place, node)) :
    tree.at? place = node := by
  rw [resolve_eq (isUsable_of_resolve leads)] at leads
  cases followed : follow tree (tree.base path) (segments path) with
  | error fault =>
      rw [followed] at leads
      cases leads
  | ok found =>
      obtain ⟨there, arrived⟩ := found
      rw [followed] at leads
      cases eq_of_arriving leads
      exact (follow_node followed).symm

section Rewriting

variable (isFile : tree.at? place = some (.file bytes)) (content : List UInt8)
include isFile

/-- A file that is given another content is still a file, and everything else is as it was. -/
theorem Tree.at?_put_file (other : List String) :
    (∃ earlier, tree.at? other = some (.file earlier) ∧
      ∃ later, (tree.put place (.file content)).at? other = some (.file later)) ∨
    (tree.put place (.file content)).at? other = tree.at? other := by
  rw [Tree.at?_put]
  split
  · rename_i same
    refine .inl ⟨bytes, ?_, content, rfl⟩
    have nonempty : place ≠ [] := by
      rintro rfl
      cases isFile
    rw [Tree.at?, if_neg (by rw [List.isEmpty_iff]; exact nonempty)] at isFile
    rw [Tree.at?, if_neg (by rw [List.isEmpty_iff]; exact same.1), same.2]
    exact isFile
  · exact .inr rfl

theorem Tree.Stands.put {directory : List String} (stands : tree.Stands directory) :
    (tree.put place (.file content)).Stands directory := by
  intro count
  rcases Tree.at?_put_file isFile content (directory.take count) with ⟨_, earlier, _⟩ | same
  · rw [stands count] at earlier
    cases earlier
  · rw [same]
    exact stands count

theorem follow_put (start names : List String) :
    follow (tree.put place (.file content)) start names =
      (follow tree start names).map fun found =>
        (found.1, (tree.put place (.file content)).at? found.1) := by
  induction names generalizing start with
  | nil => rfl
  | cons name rest ih =>
      rw [follow, follow]
      rcases Tree.at?_put_file isFile content start with ⟨_, earlier, _, later⟩ | same
      · rw [earlier, later]
        rfl
      · rw [same]
        split
        · rfl
        · rfl
        · split
          · rfl
          · exact ih _

theorem resolve_put (path : String) :
    resolve (tree.put place (.file content)) path =
      (resolve tree path).map fun found =>
        (found.1, (tree.put place (.file content)).at? found.1) := by
  by_cases usable : IsUsable path
  · have followed := follow_put isFile content (tree.base path) (segments path)
    rw [resolve_eq usable, resolve_eq usable]
    change (follow _ (tree.base path) _).bind _ = _
    rw [followed]
    cases leads : follow tree (tree.base path) (segments path) with
    | error fault => rfl
    | ok there =>
        obtain ⟨found, node⟩ := there
        obtain rfl := follow_node leads
        simp only [Except.map, Except.bind]
        rcases Tree.at?_put_file isFile content found with ⟨_, earlier, _, later⟩ | same
        · rw [earlier, later]
          cases named : endsAsDirectory path <;> simp [arriving, named, later]
        · rw [same]
          cases standing : tree.at? found with
          | none => simp [arriving, same, standing]
          | some node =>
              cases node with
              | directory => simp [arriving, same, standing]
              | file bytes =>
                  cases named : endsAsDirectory path <;> simp [arriving, named, same, standing]
  · obtain ⟨fault, refused⟩ := resolve_unusable usable
    rw [refused, refused]
    rfl

theorem at?_put_self : (tree.put place (.file content)).at? place = some (.file content) := by
  have nonempty : place ≠ [] := by
    rintro rfl
    cases isFile
  rw [Tree.at?_put, if_pos ⟨nonempty, rfl⟩]

/-- A path to a directory leads there still. -/
theorem resolve_put_directory {directory : List String}
    (leads : resolve tree path = .ok (directory, some .directory)) :
    resolve (tree.put place (.file content)) path = .ok (directory, some .directory) := by
  have still : (tree.put place (.file content)).at? directory = some .directory := by
    have isDirectory := at?_of_resolve leads
    rcases Tree.at?_put_file isFile content directory with ⟨_, earlier, _⟩ | same
    · rw [isDirectory] at earlier
      cases earlier
    · exact same.trans isDirectory
  rw [resolve_put isFile, leads, Except.map, still]

end Rewriting

/-- A path to a file leads to its new content. -/
theorem resolve_put_file (leads : resolve tree path = .ok (place, some (.file bytes)))
    (content : List UInt8) :
    resolve (tree.put place (.file content)) path = .ok (place, some (.file content)) := by
  have isFile := at?_of_resolve leads
  rw [resolve_put isFile, leads, Except.map, at?_put_self isFile content]

theorem Tree.put_put (tree : Tree) (names : List String) (first second : Node) :
    (tree.put names first).put names second = tree.put names second := by
  simp only [Tree.put, NameMap.insert_insert]

/-- Writing to a file that is there changes its content and makes no directories. -/
theorem write_file (stands : tree.Stands tree.working)
    (leads : resolve tree path = .ok (place, some (.file bytes))) (content : List UInt8) :
    write tree path content = .ok (tree.put place (.file content)) := by
  obtain ⟨directory, _, _, _, holds⟩ := resolve_file stands leads
  have parentThere : ensureParent tree path = .ok tree := by
    unfold ensureParent
    cases apart : parent? path with
    | none => rfl
    | some parent =>
        by_cases empty : parent = ""
        · simp [empty]
        · simp only [FileWatch.directoryOf, apart, if_neg empty] at holds
          simp [exists?, node?, holds]
  have opened : openForWriting tree path = .ok (tree, place, bytes) := by
    simp only [openForWriting, leads]
  simp only [write, parentThere, opened, bind, Except.bind, pure, Except.pure]

end Telemetry.Files
