import Mathlib.Data.List.DropRight
import Telemetry.Notice.FileWatch

/-!
The directory and the name in a path text. A path that ends in a name is some pieces with one more
piece behind them, and the pieces in front spell its directory.
-/

namespace Telemetry.Files

variable {path : String} {first last piece : List Char} {front more pieces : List (List Char)}

theorem splitSlashes_eq_splitOn (text : List Char) : splitSlashes text = text.splitOn '/' := by
  induction text with
  | nil => rfl
  | cons c rest ih =>
      rw [splitSlashes, ih, List.splitOn, List.splitOn, List.splitOnP_cons_eq_if_modifyHead]
      by_cases slash : c = '/'
      · simp [slash]
      · cases cut : rest.splitOnP (· == '/') with
        | nil => exact absurd cut (List.splitOnP_ne_nil _ _)
        | cons piece more => simp [slash]

def IsPlain (piece : List Char) : Prop := '/' ∉ piece

theorem isPlain_of_mem_splitSlashes {text : List Char} (member : piece ∈ splitSlashes text) :
    IsPlain piece := by
  induction text generalizing piece with
  | nil =>
      cases List.mem_singleton.mp member
      exact List.not_mem_nil
  | cons c rest ih =>
      rw [splitSlashes] at member
      split at member
      · rcases List.mem_cons.mp member with rfl | inRest
        · exact List.not_mem_nil
        · exact ih inRest
      · rename_i other
        split at member
        · cases List.mem_singleton.mp member
          exact fun slash => other (List.mem_singleton.mp slash).symm
        · rename_i own others cut
          rw [cut] at ih
          rcases List.mem_cons.mp member with rfl | inRest
          · intro slash
            rcases List.mem_cons.mp slash with same | inOwn
            · exact other same.symm
            · exact ih List.mem_cons_self inOwn
          · exact ih (List.mem_cons_of_mem _ inRest)

/-- The pieces of a path between slashes. -/
def piecesOf (path : String) : List (List Char) := splitSlashes path.toList

theorem piecesOf_ne_nil (path : String) : piecesOf path ≠ [] := by
  rw [piecesOf, splitSlashes_eq_splitOn]
  exact List.splitOnP_ne_nil _ _

theorem isPlain_of_mem (member : piece ∈ piecesOf path) : IsPlain piece :=
  isPlain_of_mem_splitSlashes member

theorem piecesOf_joinSlashes (nonempty : pieces ≠ []) (plain : ∀ piece ∈ pieces, IsPlain piece) :
    piecesOf (joinSlashes pieces) = pieces := by
  rw [piecesOf, joinSlashes, String.toList_ofList, splitSlashes_eq_splitOn]
  exact List.splitOn_intercalate '/' plain nonempty

theorem joinSlashes_piecesOf (path : String) : joinSlashes (piecesOf path) = path := by
  rw [piecesOf, joinSlashes, splitSlashes_eq_splitOn, List.intercalate_splitOn,
    String.ofList_toList]

/-- What is in front of a piece, with the slash between them. -/
theorem joinSlashes_concat (nonempty : front ≠ []) (last : List Char) :
    joinSlashes (front ++ [last]) = joinSlashes front ++ "/" ++ String.ofList last := by
  induction front with
  | nil => exact absurd rfl nonempty
  | cons first more ih =>
      cases more with
      | nil => simp [joinSlashes, List.intercalate_cons_cons, String.ofList_append,
          String.append_assoc]
      | cons second rest =>
          have others := ih (List.cons_ne_nil _ _)
          simp only [joinSlashes, List.cons_append, List.intercalate_cons_cons,
            String.ofList_append] at others ⊢
          rw [others]
          simp [String.append_assoc]

/-- The text of fewer pieces is the beginning of the text. -/
theorem joinSlashes_isPrefix (nonempty : front ≠ []) (shorter : List.IsPrefix front pieces) :
    ∃ rest, joinSlashes pieces = joinSlashes front ++ rest := by
  obtain ⟨others, rfl⟩ := shorter
  induction others using List.reverseRecOn with
  | nil => exact ⟨"", by simp⟩
  | append_singleton earlier last ih =>
      obtain ⟨rest, same⟩ := ih
      have inFront : front ++ earlier ≠ [] := List.append_ne_nil_of_left_ne_nil nonempty _
      rw [← List.append_assoc, joinSlashes_concat inFront, same]
      exact ⟨rest ++ "/" ++ String.ofList last, by simp [String.append_assoc]⟩

/-- The names in some pieces. -/
def namesIn (pieces : List (List Char)) : List String :=
  (pieces.map String.ofList).filter (fun name => name != "" && name != ".")

theorem segments_eq (path : String) : segments path = namesIn (piecesOf path) := rfl

theorem namesIn_append (front more : List (List Char)) :
    namesIn (front ++ more) = namesIn front ++ namesIn more := by
  simp [namesIn]

theorem namesIn_singleton (piece : List Char) :
    namesIn [piece] = if isSilent piece then [] else [String.ofList piece] := by
  have silent : (String.ofList piece != "" && String.ofList piece != ".") = !isSilent piece := by
    have empty : (String.ofList piece == "") = piece.isEmpty := by
      rw [Bool.eq_iff_iff, beq_iff_eq, List.isEmpty_iff, ← String.toList_inj, String.toList_ofList]
      rfl
    have point : (String.ofList piece == ".") = (piece == ['.']) := by
      rw [Bool.eq_iff_iff, beq_iff_eq, beq_iff_eq, ← String.toList_inj, String.toList_ofList]
      rfl
    simp [bne, empty, point, isSilent]
  simp only [namesIn, List.map_cons, List.map_nil, List.filter_cons, List.filter_nil, silent]
  cases isSilent piece <;> rfl

/-- Silent pieces at the end name nothing. -/
theorem namesIn_rdropWhile (pieces : List (List Char)) :
    namesIn (pieces.rdropWhile isSilent) = namesIn pieces := by
  induction pieces using List.reverseRecOn with
  | nil => rfl
  | append_singleton earlier last ih =>
      rw [List.rdropWhile_concat, namesIn_append, namesIn_singleton]
      cases silent : isSilent last with
      | true => simp [ih]
      | false => simp [namesIn_append, namesIn_singleton, silent]

theorem trimmedPieces_eq (cut : piecesOf path = first :: more) :
    trimmedPieces path = first :: more.rdropWhile isSilent := by
  have cutText : splitSlashes path.toList = first :: more := cut
  simp only [trimmedPieces, cutText]
  rfl

/-- A path that ends in a name. -/
structure EndsIn (path : String) (front : List (List Char)) (last : List Char) : Prop where
  pieces : piecesOf path = front ++ [last]
  spoken : isSilent last = false

/-- What is left of a path when silent pieces at its end are left out. -/
theorem trimmedPieces_of_endsIn (ends : EndsIn path front last) :
    trimmedPieces path = front ++ [last] := by
  cases front with
  | nil => exact trimmedPieces_eq ends.pieces
  | cons first more =>
      have spoken : ¬ isSilent last = true := by
        rw [ends.spoken]
        exact Bool.false_ne_true
      have cut : piecesOf path = first :: (more ++ [last]) := ends.pieces
      rw [trimmedPieces_eq cut, List.rdropWhile_concat_neg _ _ _ spoken]
      rfl

/-- The directory that pieces spell. -/
def directoryText : List (List Char) → String
  | [] => "."
  | first :: more =>
      if first.isEmpty && (more.rdropWhile isSilent).isEmpty then "/"
      else joinSlashes (first :: more.rdropWhile isSilent)

/-- The piece that a file name stands in for. -/
theorem trimmedPieces_of_fileName? {name : String} (named : fileName? path = some name) :
    ∃ front last, trimmedPieces path = front ++ [last] ∧ isSilent last = false ∧
      last ≠ ['.', '.'] ∧ name = String.ofList last := by
  unfold fileName? at named
  split at named
  · rename_i last isLast
    obtain ⟨front, cut⟩ := List.getLast?_eq_some_iff.mp isLast
    split at named
    · cases named
    · rename_i spoken
      cases named
      simp only [Bool.or_eq_true, beq_iff_eq, not_or, Bool.not_eq_true] at spoken
      exact ⟨front, last, cut, spoken.1, spoken.2, rfl⟩
  · cases named

theorem fileName?_eq (cut : trimmedPieces path = front ++ [last]) (spoken : isSilent last = false)
    (downwards : last ≠ ['.', '.']) : fileName? path = some (String.ofList last) := by
  simp [fileName?, cut, spoken, downwards]

theorem toList_joinSlashes_cons (first second : List Char) (more : List (List Char)) :
    (joinSlashes (first :: second :: more)).toList =
      first ++ '/' :: (joinSlashes (second :: more)).toList := by
  simp [joinSlashes, List.intercalate_cons_cons]

theorem joinSlashes_singleton (only : List Char) : joinSlashes [only] = String.ofList only := by
  simp [joinSlashes]

theorem joinSlashes_ne_empty (spelled : (first.isEmpty && more.isEmpty) = false) :
    joinSlashes (first :: more) ≠ "" := by
  intro empty
  have nothing := congrArg String.toList empty
  cases more with
  | nil =>
      rw [joinSlashes_singleton, String.toList_ofList] at nothing
      have noPiece : first = [] := nothing
      simp [noPiece] at spelled
  | cons second rest =>
      rw [toList_joinSlashes_cons] at nothing
      exact absurd nothing (by simp)

theorem isAbsolute_joinSlashes (plain : IsPlain first) (more : List (List Char)) :
    isAbsolute (joinSlashes (first :: more)) = (first.isEmpty && !more.isEmpty) := by
  have notSlash : first.head? ≠ some '/' := fun isFirst =>
    plain (List.mem_of_mem_head? isFirst)
  cases more with
  | nil =>
      rw [isAbsolute, joinSlashes_singleton, String.toList_ofList]
      simp [notSlash]
  | cons second rest =>
      rw [isAbsolute, toList_joinSlashes_cons]
      cases first with
      | nil => rfl
      | cons c others =>
          have other : c ≠ '/' := fun same => notSlash (by rw [same]; rfl)
          simp [other]

/-- The directory of a path is what the pieces before the last one spell. -/
theorem directoryOf_eq (cut : trimmedPieces path = front ++ [last])
    (spoken : isSilent last = false) : FileWatch.directoryOf path = directoryText front := by
  cases front with
  | nil =>
      have named : last.isEmpty = false := by
        rw [isSilent, Bool.or_eq_false_iff] at spoken
        exact spoken.1
      have only : trimmedPieces path = [last] := cut
      simp [FileWatch.directoryOf, parent?, only, named, directoryText]
  | cons first more =>
      have apart : parent? path = some (directoryText (first :: more)) := by
        have kept : (more ++ [last]).dropLast = more := List.dropLast_concat
        have several : ∃ second rest, more ++ [last] = second :: rest :=
          List.exists_cons_of_ne_nil (List.append_ne_nil_of_right_ne_nil _ (List.cons_ne_nil _ _))
        obtain ⟨second, rest, shape⟩ := several
        rw [List.cons_append, shape] at cut
        rw [shape] at kept
        simp only [parent?, cut, kept, directoryText, List.rdropWhile]
        exact (apply_ite some _ _ _).symm
      have spelled : directoryText (first :: more) ≠ "" := by
        rw [directoryText]
        split
        · decide
        · rename_i some
          exact joinSlashes_ne_empty (Bool.not_eq_true _ ▸ some)
      simp only [FileWatch.directoryOf, apart, if_neg spelled]

theorem segments_directoryText (plain : ∀ piece ∈ front, IsPlain piece) :
    segments (directoryText front) = namesIn front := by
  cases front with
  | nil => decide
  | cons first more =>
      have same : namesIn (first :: more.rdropWhile isSilent) = namesIn (first :: more) := by
        have apart := namesIn_append [first] (more.rdropWhile isSilent)
        rw [namesIn_rdropWhile, ← namesIn_append] at apart
        exact apart
      rw [directoryText]
      split
      · rename_i nothing
        rw [Bool.and_eq_true, List.isEmpty_iff, List.isEmpty_iff] at nothing
        rw [← same, nothing.1, nothing.2]
        decide
      · rw [segments_eq, piecesOf_joinSlashes (List.cons_ne_nil _ _), same]
        intro piece member
        rcases List.mem_cons.mp member with rfl | inRest
        · exact plain _ List.mem_cons_self
        · exact plain _ (List.mem_cons_of_mem _ ((List.rdropWhile_prefix _ _).subset inRest))

/-- A path and the text of its directory begin at the same place. -/
theorem isAbsolute_directoryText (ends : EndsIn path front last) :
    isAbsolute (directoryText front) = isAbsolute path := by
  have plain : ∀ piece ∈ front ++ [last], IsPlain piece := by
    rw [← ends.pieces]
    exact fun _ => isPlain_of_mem
  have text : path = joinSlashes (front ++ [last]) := by rw [← ends.pieces, joinSlashes_piecesOf]
  cases front with
  | nil =>
      rw [text, List.nil_append, isAbsolute_joinSlashes (plain last List.mem_cons_self)]
      simp [directoryText, isAbsolute]
  | cons first more =>
      have plainFirst := plain first List.mem_cons_self
      have start : isAbsolute path = first.isEmpty := by
        rw [text, List.cons_append, isAbsolute_joinSlashes plainFirst]
        simp
      rw [start, directoryText]
      split
      · rename_i nothing
        rw [Bool.and_eq_true] at nothing
        rw [nothing.1]
        decide
      · rename_i something
        rw [isAbsolute_joinSlashes plainFirst]
        cases empty : first.isEmpty with
        | true => simpa [empty] using something
        | false => rfl

/-- The text of the directory is no longer than the path, but for the names of the working
directory and the root. -/
theorem directoryText_cases (ends : EndsIn path front last) :
    directoryText front = "." ∨ directoryText front = "/" ∨
      directoryText front ≠ "" ∧ ∃ rest, path = directoryText front ++ rest := by
  cases front with
  | nil => exact .inl rfl
  | cons first more =>
      rw [directoryText]
      split
      · exact .inr (.inl rfl)
      · rename_i something
        have shorter : List.IsPrefix (first :: more.rdropWhile isSilent) (piecesOf path) := by
          rw [ends.pieces]
          have inMore := (List.rdropWhile_prefix isSilent more).trans (List.prefix_append _ [last])
          exact (List.prefix_cons_inj first).mpr inMore
        obtain ⟨rest, longer⟩ := joinSlashes_isPrefix (List.cons_ne_nil _ _) shorter
        rw [joinSlashes_piecesOf] at longer
        exact .inr (.inr ⟨joinSlashes_ne_empty (Bool.not_eq_true _ ▸ something), rest, longer⟩)

theorem mem_piecesOf_of_mem_trimmedPieces (member : piece ∈ trimmedPieces path) :
    piece ∈ piecesOf path := by
  obtain ⟨first, more, cut⟩ := List.exists_cons_of_ne_nil (piecesOf_ne_nil path)
  rw [trimmedPieces_eq cut] at member
  rw [cut]
  rcases List.mem_cons.mp member with rfl | inRest
  · exact List.mem_cons_self
  · exact List.mem_cons_of_mem _ ((List.rdropWhile_prefix _ _).subset inRest)

theorem joinSlashes_concat_append (front : List (List Char)) (last : List Char)
    (addition : String) :
    joinSlashes (front ++ [last]) ++ addition =
      joinSlashes (front ++ [last ++ addition.toList]) := by
  have longer : String.ofList (last ++ addition.toList) = String.ofList last ++ addition := by
    rw [String.ofList_append, String.ofList_toList]
  cases front with
  | nil =>
      rw [List.nil_append, List.nil_append, joinSlashes_singleton, joinSlashes_singleton, longer]
  | cons first more =>
      have nonempty := List.cons_ne_nil first more
      rw [joinSlashes_concat nonempty, joinSlashes_concat nonempty, longer]
      simp [String.append_assoc]

/-- Added text makes the last name longer and leaves the directory. -/
theorem endsIn_of_withAddedText {addition longer : String} (plain : IsPlain addition.toList)
    (added : withAddedText path addition = some longer) :
    ∃ front last, trimmedPieces path = front ++ [last] ∧ isSilent last = false ∧
      fileName? path = some (String.ofList last) ∧
      EndsIn longer front (last ++ addition.toList) := by
  obtain ⟨name, named, rfl⟩ := Option.map_eq_some_iff.mp added
  obtain ⟨front, last, cut, spoken, _, rfl⟩ := trimmedPieces_of_fileName? named
  have plainPieces : ∀ piece ∈ front ++ [last], IsPlain piece := by
    rw [← cut]
    exact fun _ member => isPlain_of_mem (mem_piecesOf_of_mem_trimmedPieces member)
  refine ⟨front, last, cut, spoken, named, ?_, ?_⟩
  · rw [cut, joinSlashes_concat_append, piecesOf_joinSlashes (by simp)]
    intro piece member
    rcases List.mem_append.mp member with inFront | isLast
    · exact plainPieces piece (List.mem_append_left _ inFront)
    · cases List.mem_singleton.mp isLast
      have plainLast := plainPieces last (List.mem_append_right _ List.mem_cons_self)
      exact fun slash => (List.mem_append.mp slash).elim plainLast plain
  · rcases last with _ | ⟨c, rest⟩
    · cases spoken
    · cases rest with
      | nil =>
          simp only [isSilent, List.isEmpty_cons, Bool.false_or] at spoken ⊢
          cases addition.toList with
          | nil => exact spoken
          | cons d others => simp
      | cons d others => simp [isSilent]

end Telemetry.Files
