import Telemetry.Layer.Base
import Telemetry.Proofs.Layer.Steps
import Telemetry.Proofs.Layer.Taking

/-!
What is written as the lowest layer. Leaves whose keys spell paths are put on top of one another;
the fields of one table are written apart, and each is read back as the value that it was written
for. The settings are such a table.
-/

namespace Telemetry.Layer

open KeyPath (parse)
open Text (lowercase)

variable {α : Type} {tree after : Node} {leaf : Leaf} {leaves : List Leaf} {key field : String}

/-- The entry that a leaf is in a layer. -/
def entryOf? (leaf : Leaf) : Option (String × Node) :=
  leaf.2.toOption.map fun value => (lowercase leaf.1, .leaf none value)

/-- The leaves have values, and their keys spell paths. -/
def Writable (leaves : List Leaf) : Prop :=
  ∀ leaf ∈ leaves, ∃ value path, leaf.2 = .ok value ∧ parse (lowercase leaf.1) = .ok path

/-- Leaves are written as a layer with their keys is put on top. -/
theorem overlay_of_writeLeaf (done : leaves.foldlM writeLeaf tree = .ok after) :
    after = overlay tree (leaves.filterMap entryOf?) ∧ Writable leaves := by
  induction leaves generalizing tree with
  | nil => cases done; exact ⟨rfl, nofun⟩
  | cons leaf rest ih =>
      rw [List.foldlM_cons] at done
      cases isValue : leaf.2 with
      | error reason =>
          simp only [writeLeaf, isValue] at done
          cases done
      | ok value =>
          cases parsed : parse (lowercase leaf.1) with
          | error flaw =>
              simp only [writeLeaf, isValue, parsed] at done
              cases done
          | ok path =>
              have wrote : writeLeaf tree leaf = .ok (setAt path (.leaf none value) (some tree)) := by
                simp only [writeLeaf, isValue, parsed]
              rw [wrote] at done
              obtain ⟨others, writable⟩ := ih done
              have leads : KeyPath.ofKey (lowercase leaf.1) = path := by rw [KeyPath.ofKey, parsed]
              have own : entryOf? leaf = some (lowercase leaf.1, .leaf none value) := by
                rw [entryOf?, isValue]
                rfl
              refine ⟨?_, List.forall_mem_cons.mpr ⟨⟨value, path, isValue, parsed⟩, writable⟩⟩
              rw [List.filterMap_cons_some own, overlay_cons, leads]
              exact others

theorem mem_entries_iff {entry : String × Node} :
    entry ∈ leaves.filterMap entryOf? ↔
      ∃ leaf ∈ leaves, ∃ value,
        leaf.2 = .ok value ∧ entry = (lowercase leaf.1, .leaf none value) := by
  rw [List.mem_filterMap]
  refine exists_congr fun leaf => and_congr_right fun _ => ?_
  unfold entryOf?
  cases leaf.2 with
  | error reason => simp [Except.toOption]
  | ok value => simp [Except.toOption, eq_comm]

section Reading

/-- A way to write a value that a way to read it undoes. -/
structure ReadsBack (build : String → α → Leaf) (read : Node → Except ConfigError α) : Prop where
  key : ∀ place value, (build place value).1 = place
  value : ∀ place value scalar, (build place value).2 = .ok scalar →
    read (.leaf none scalar) = .ok value

theorem readsBack_text : ReadsBack textLeaf readText where
  key _ _ := rfl
  value _ _ _ same := by cases same; rfl

theorem readsBack_bool : ReadsBack boolLeaf readBool where
  key _ _ := rfl
  value _ _ _ same := by cases same; rfl

theorem wordLeaf_eq_ok {value : UInt64} {scalar : Scalar}
    (same : (wordLeaf key value).2 = .ok scalar) : scalar = .integer value.toNat := by
  simp only [wordLeaf] at same
  split at same
  · cases same; rfl
  · cases same

theorem readsBack_word : ReadsBack wordLeaf readWord where
  key _ _ := rfl
  value _ value scalar same := by
    obtain rfl := wordLeaf_eq_ok same
    simp [readWord]

/-- An optional value is told from none where no value is written as nothing. -/
theorem readsBack_option {build : String → α → Leaf} {read : Node → Except ConfigError α}
    (back : ReadsBack build read) (some : ∀ place value, (build place value).2 ≠ .ok .nil) :
    ReadsBack (optionLeaf build) (readOption read) where
  key place value := by
    cases value with
    | none => rfl
    | some value => exact back.key place value
  value place value scalar same := by
    cases value with
    | none => cases same; rfl
    | some value =>
        have reads := back.value place value scalar same
        unfold readOption
        split
        · rename_i nil
          cases nil
          exact absurd same (some place value)
        · rw [reads]
          rfl

theorem readsBack_optionText : ReadsBack (optionLeaf textLeaf) (readOption readText) :=
  readsBack_option readsBack_text fun _ _ => nofun

theorem readsBack_optionBool : ReadsBack (optionLeaf boolLeaf) (readOption readBool) :=
  readsBack_option readsBack_bool fun _ _ => nofun

theorem readsBack_optionWord : ReadsBack (optionLeaf wordLeaf) (readOption readWord) :=
  readsBack_option readsBack_word fun _ _ same => nomatch wordLeaf_eq_ok same

end Reading

section Fields

/-- A name that a path leads through as it is. -/
def IsSettled (name : String) : Prop := IsPlain name ∧ lowercase name = name

instance (name : String) : Decidable (IsSettled name) :=
  inferInstanceAs (Decidable (IsPlain name ∧ lowercase name = name))

theorem isSettled_global : ∀ name ∈ ["global"], IsSettled name := by decide +kernel

theorem isSettled_targets : IsSettled "targets" := by decide +kernel

/-- A layer of plain keys is put on top of a table as one is merged with it. -/
theorem overlay_eq_mergeEntries {entries : Entries} (settled : ∀ entry ∈ entries, IsSettled entry.1)
    (origin : Option String) (existing : List (String × Node)) :
    overlay (.table origin existing) entries = mergeEntries entries (.table origin existing) := by
  induction entries generalizing existing with
  | nil => rw [mergeEntries]; rfl
  | cons entry rest ih =>
      obtain ⟨key, value⟩ := entry
      have own := settled _ List.mem_cons_self
      have leads : KeyPath.ofKey key = [.name key] := by
        have path := KeyPath.ofKey_pointedNames own.1 (List.forall_mem_nil _)
        rwa [pointedNames_nil] at path
      rw [overlay_cons, leads, setAt_name, mergeEntries]
      exact ih (fun entry member => settled entry (List.mem_cons_of_mem _ member)) _

/-- What the later key writes leaves alone the place that the earlier one leads to. -/
def Separate (first second : String) : Prop :=
  ∀ (node : Node) (place : List String), KeyPath.ofKey (lowercase first) = place.map .name →
    Misses (KeyPath.ofKey (lowercase second)) node place

theorem apart_of_separate (separate : (leaves.map (·.1)).Pairwise Separate) :
    Apart (leaves.filterMap entryOf?) := by
  refine List.pairwise_filterMap.mpr ((List.pairwise_map.mp separate).imp ?_)
  rintro first second apart entry isFirst other isSecond place leads
  obtain ⟨_, _, rfl⟩ := Option.map_eq_some_iff.mp isFirst
  obtain ⟨_, _, rfl⟩ := Option.map_eq_some_iff.mp isSecond
  exact apart _ place leads

theorem pointedNames_append (first : String) (names : List String) (field : String) :
    pointedNames first names ++ ("." ++ field) = pointedNames first (names ++ [field]) := by
  apply String.toList_inj.mp
  simp only [pointedNames, String.toList_append, String.toList_ofList, List.flatMap_append,
    List.flatMap_singleton, List.append_assoc]
  rfl

theorem lowercase_pointedNames {first : String} {names : List String}
    (lower : ∀ name ∈ first :: names, lowercase name = name) :
    lowercase (pointedNames first names) = pointedNames first names := by
  rw [Text.lowercase_eq_self_iff, pointedNames, String.toList_ofList]
  intro c member
  rcases List.mem_append.mp member with member | member
  · exact Text.lowercase_eq_self_iff.mp (lower first List.mem_cons_self) c member
  · obtain ⟨name, isName, member⟩ := List.mem_flatMap.mp member
    rcases List.mem_cons.mp member with rfl | member
    · decide
    · exact Text.lowercase_eq_self_iff.mp (lower name (List.mem_cons_of_mem _ isName)) c member

theorem leads_field {first : String} {names : List String}
    (settled : ∀ name ∈ first :: names, IsSettled name) (own : IsSettled field) :
    KeyPath.ofKey (lowercase (pointedNames first names ++ ("." ++ field))) =
      (first :: names ++ [field]).map .name := by
  have each : ∀ name ∈ first :: (names ++ [field]), IsSettled name := by
    intro name member
    rcases List.mem_append.mp (List.cons_append ▸ member) with member | member
    · exact settled name member
    · exact List.mem_singleton.mp member ▸ own
  rw [pointedNames_append, lowercase_pointedNames fun name member => (each name member).2,
    KeyPath.ofKey_pointedNames (each first List.mem_cons_self).1
      fun name member => (each name (List.mem_cons_of_mem _ member)).1]
  rfl

/-- The fields of one table are written apart. -/
theorem separate_fields {first : String} {names fields : List String}
    (settled : ∀ name ∈ first :: names, IsSettled name) (each : ∀ field ∈ fields, IsSettled field)
    (distinct : fields.Nodup) :
    (fields.map fun field => pointedNames first names ++ ("." ++ field)).Pairwise Separate := by
  refine List.pairwise_map.mpr (distinct.imp_of_mem ?_)
  intro one other isOne isOther differ node place leads
  rw [leads_field settled (each one isOne)] at leads
  obtain rfl := names_inj leads
  rw [leads_field settled (each other isOther), List.map_append, List.map_singleton]
  refine misses_of_ne ?_ _ _ _ _
  rw [(each other isOther).2]
  exact differ.symm

/-- The leaf that is written for a field stands at its place. -/
theorem at?_of_field (writable : Writable leaves) (apart : Apart (leaves.filterMap entryOf?))
    {first : String} {names : List String} (settled : ∀ name ∈ first :: names, IsSettled name)
    (own : IsSettled field) (member : leaf ∈ leaves)
    (key : leaf.1 = pointedNames first names ++ ("." ++ field)) (tree : Node) :
    ∃ scalar, leaf.2 = .ok scalar ∧
      (overlay tree (leaves.filterMap entryOf?)).at? (first :: names ++ [field]) =
        some (.leaf none scalar) := by
  obtain ⟨scalar, _, isScalar, _⟩ := writable _ member
  have entry := mem_entries_iff.mpr ⟨_, member, scalar, isScalar, rfl⟩
  have lower : ∀ name ∈ first :: names ++ [field], lowercase name = name := by
    intro name isName
    rcases List.mem_append.mp isName with isName | isName
    · exact (settled name isName).2
    · exact List.mem_singleton.mp isName ▸ own.2
  exact ⟨scalar, isScalar,
    at?_overlay_of_apart apart tree entry lower (key ▸ leads_field settled own)⟩

/-- What is written for a field is read as its value. -/
theorem takes_of_field {build : String → α → Leaf} {read : Node → Except ConfigError α} {value : α}
    (back : ReadsBack build read) (writable : Writable leaves)
    (apart : Apart (leaves.filterMap entryOf?)) {first : String} {names : List String}
    (settled : ∀ name ∈ first :: names, IsSettled name) (own : IsSettled field)
    (member : build (pointedNames first names ++ ("." ++ field)) value ∈ leaves) (tree : Node)
    (start : α) :
    Takes read ((overlay tree (leaves.filterMap entryOf?)).at? (first :: names ++ [field]))
      start value := by
  obtain ⟨scalar, isScalar, stands⟩ :=
    at?_of_field writable apart settled own member (back.key _ _) tree
  rw [stands]
  exact back.value _ value scalar isScalar

end Fields

section Settings

variable {settings : Settings}

theorem isSettled_settingNames : ∀ field ∈ settingNames, IsSettled field := by decide +kernel

theorem keys_settingsLeaves (place : String) (settings : Settings) :
    (settingsLeaves place settings).map (·.1) =
      settingNames.map fun field => place ++ ("." ++ field) := by
  simp only [settingsLeaves, List.map_cons, List.map_nil, readsBack_optionText.key]
  rfl

theorem separate_settings (settings : Settings) :
    ((settingsLeaves "global" settings).map (·.1)).Pairwise Separate := by
  have separate := separate_fields isSettled_global isSettled_settingNames (by decide +kernel)
  rwa [pointedNames_nil, ← keys_settingsLeaves _ settings] at separate

theorem format_stands (writable : Writable (settingsLeaves "global" settings)) (tree : Node) :
    ∃ node, (overlay tree ((settingsLeaves "global" settings).filterMap entryOf?)).at?
      ["global", "format"] = some node := by
  obtain ⟨_, _, stands⟩ := at?_of_field writable
    (apart_of_separate (separate_settings settings)) isSettled_global
    (isSettled_settingNames "format" (by decide)) List.mem_cons_self rfl tree
  exact ⟨_, stands⟩

/-- Settings are read back from where they are written. -/
theorem settings_takenFrom_leaves (writable : Writable (settingsLeaves "global" settings))
    (tree : Node) :
    settings.TakenFrom fun name =>
      (overlay tree ((settingsLeaves "global" settings).filterMap entryOf?)).at? ["global", name] := by
  have apart := apart_of_separate (separate_settings settings)
  have field {α : Type} {build : String → α → Leaf} {read : Node → Except ConfigError α} {value : α}
      (name : String) (back : ReadsBack build read) (isName : name ∈ settingNames)
      (member : build ("global" ++ ("." ++ name)) value ∈ settingsLeaves "global" settings)
      (start : α) := takes_of_field back writable apart isSettled_global
        (isSettled_settingNames name isName) member tree start
  exact {
    format := field "format" readsBack_text (by decide) (by simp [settingsLeaves]) _
    noLabels := field "no_prefix" readsBack_bool (by decide) (by simp [settingsLeaves]) _
    debug := field "debug" readsBack_bool (by decide) (by simp [settingsLeaves]) _
    log := field "log" readsBack_bool (by decide) (by simp [settingsLeaves]) _
    logFile := field "log_file" readsBack_text (by decide) (by simp [settingsLeaves]) _
    maxMessageSize := field "max_msg_size" readsBack_word (by decide) (by simp [settingsLeaves]) _
    proxyFromEnvironment :=
      field "proxy_from_env" readsBack_bool (by decide) (by simp [settingsLeaves]) _
    api := field "api" readsBack_text (by decide) (by simp [settingsLeaves]) _
    username := field "username" readsBack_optionText (by decide) (by simp [settingsLeaves]) _
    password := field "password" readsBack_optionText (by decide) (by simp [settingsLeaves]) _
    insecure := field "insecure" readsBack_bool (by decide) (by simp [settingsLeaves]) _
    skipVerify := field "skip_verify" readsBack_bool (by decide) (by simp [settingsLeaves]) _
    timeoutMs := field "timeout_in_ms" readsBack_word (by decide) (by simp [settingsLeaves]) _ }

end Settings

end Telemetry.Layer
