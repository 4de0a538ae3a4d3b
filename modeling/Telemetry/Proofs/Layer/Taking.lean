import Telemetry.Layer.Reading
import Telemetry.Proofs.Layer.Place

/-!
What a record that was read from a table has taken from it: each field the value of the entry of its
name, and its own start where there is none.
-/

namespace Telemetry.Layer

variable {α record : Type} {name : String} {read : Node → Except ConfigError α}
  {get : record → α} {fields : List (RecordField Part ConfigError record)}
  {entries : List (String × Node)} {given : Option Node} {start value : α}

/-- A value is the one that is read where one is given, and else the one to start with. -/
def Takes (read : Node → Except ConfigError α) (given : Option Node) (start value : α) : Prop :=
  match given with
  | none => value = start
  | some node => read node = .ok value

theorem Takes.eq {other : α} (first : Takes read given start value)
    (second : Takes read given start other) : value = other := by
  cases given with
  | none => exact first.trans second.symm
  | some node => exact Except.ok.inj (first.symm.trans second)

theorem Takes.eq_of_ok {node : Node} {other : α} (takes : Takes read given start value)
    (isGiven : given = some node) (reads : read node = .ok other) : value = other := by
  subst isGiven
  exact Except.ok.inj (takes.symm.trans reads)

/-- What is read from a default that stands below is the start itself. -/
theorem Takes.of_or {below : Option Node} (takes : Takes read (given.or below) start value)
    (own : Takes read below start start) : Takes read given start value := by
  cases given with
  | none =>
      rw [Option.none_or] at takes
      exact takes.eq own
  | some node => exact takes

/-- A field that sets a part of the record. -/
def Sets (read : Node → Except ConfigError α) (get : record → α)
    (field : RecordField Part ConfigError record) : Prop :=
  ∀ part r after, field.set part r = .ok after → read part.node = .ok (get after)

/-- A field that leaves a part of the record alone. -/
def Keeps (get : record → α) (field : RecordField Part ConfigError record) : Prop :=
  ∀ part r after, field.set part r = .ok after → get after = get r

theorem field_set_ok {read : Node → Except ConfigError α} {put : α → record → record} {part : Part}
    {r after : record} (set : (field name read put).set part r = .ok after) :
    ∃ value, read part.node = .ok value ∧ after = put value r := by
  simp only [field] at set
  cases outcome : read part.node with
  | error reason => rw [outcome] at set; cases set
  | ok value => rw [outcome] at set; cases set; exact ⟨value, rfl, rfl⟩

theorem sets_field {put : α → record → record} (puts : ∀ value r, get (put value r) = value) :
    Sets read get (field name read put) := by
  intro part r after set
  obtain ⟨value, outcome, rfl⟩ := field_set_ok set
  rw [outcome, puts]

theorem keeps_field {β : Type} {get : record → β} {put : α → record → record}
    (keeps : ∀ value r, get (put value r) = get r) : Keeps get (field name read put) := by
  intro part r after set
  obtain ⟨value, _, rfl⟩ := field_set_ok set
  exact keeps value r

/-- Of the fields those of a name set a part of the record, and no others do. -/
structure Fills (fields : List (RecordField Part ConfigError record)) (name : String)
    (read : Node → Except ConfigError α) (get : record → α) : Prop where
  named : name ∈ fields.map (·.name)
  each : ∀ field ∈ fields,
    (field.name = name ∧ Sets read get field) ∨ (field.name ≠ name ∧ Keeps get field)

theorem find?_isSome_iff {fields : List (RecordField Part ConfigError record)} :
    (RecordField.find? fields name).isSome ↔ name ∈ fields.map (·.name) := by
  simp [RecordField.find?]

theorem mem_of_find? {one : RecordField Part ConfigError record}
    (found : RecordField.find? fields name = some one) : one ∈ fields ∧ one.name = name :=
  ⟨List.mem_of_find?_eq_some found, by simpa using List.find?_some found⟩

/-- The entries as the parts of a record. -/
def partsOf (entries : List (String × Node)) : List (String × Part) :=
  entries.map fun entry => (entry.1, ⟨located entry.1 true, entry.2⟩)

theorem setByName_takes (fills : Fills fields name read get) (ascending : Ascending entries)
    {start after : record}
    (done : RecordField.setByName fields (partsOf entries) start = .ok after) :
    Takes read (findEntry name entries) (get start) (get after) := by
  induction entries generalizing start with
  | nil => cases done; exact rfl
  | cons entry rest ih =>
      obtain ⟨below, restAscending⟩ := List.pairwise_cons.mp ascending
      rw [findEntry_cons]
      simp only [partsOf, List.map_cons, RecordField.setByName] at done
      split at done
      · rename_i unknown
        have other : name ≠ entry.1 := by
          rintro rfl
          have known := find?_isSome_iff.mpr fills.named
          rw [unknown] at known
          cases known
        rw [if_neg other]
        exact ih restAscending done
      · rename_i one found
        obtain ⟨member, named⟩ := mem_of_find? found
        split at done
        · rename_i between set
          have later := ih restAscending done
          rcases fills.each one member with ⟨same, sets⟩ | ⟨other, keeps⟩
          · have own : name = entry.1 := same.symm.trans named
            -- the names ascend, so no later entry has this one's name
            have absent : findEntry name rest = none := findEntry_eq_none (own ▸ below)
            rw [absent] at later
            rw [if_pos own]
            exact (sets _ _ _ set).trans (congrArg Except.ok later.symm)
          · have different : name ≠ entry.1 := fun same => other (named.trans same.symm)
            rw [if_neg different]
            rw [keeps _ _ _ set] at later
            exact later
        · cases done

theorem readEntries_get? {entries : List (String × Node)} {map : NameMap α}
    (ascending : Ascending entries) (reads : readEntries read entries = .ok map) (name : String) :
    (findEntry name entries = none ∧ map.get? name = none) ∨
      ∃ node value, findEntry name entries = some node ∧ read node = .ok value ∧
        map.get? name = some value := by
  induction entries generalizing map with
  | nil =>
      cases reads
      exact .inl ⟨rfl, rfl⟩
  | cons entry rest ih =>
      obtain ⟨key, node⟩ := entry
      obtain ⟨_, restAscending⟩ := List.pairwise_cons.mp ascending
      rw [readEntries] at reads
      cases first : read node with
      | error reason => rw [first] at reads; cases reads
      | ok value =>
          cases others : readEntries read rest with
          | error reason => rw [first, others] at reads; cases reads
          | ok later =>
              rw [first, others] at reads
              cases reads
              rw [findEntry_cons, NameMap.get?_insert]
              by_cases same : name = key
              · exact .inr ⟨node, value, by rw [if_pos same], first, by rw [if_pos same]⟩
              · rw [if_neg same, if_neg same]
                exact ih restAscending others

theorem fills_settings :
    Fills settingsFields "format" readText Settings.format ∧
    Fills settingsFields "no_prefix" readBool Settings.noLabels ∧
    Fills settingsFields "debug" readBool Settings.debug ∧
    Fills settingsFields "log" readBool Settings.log ∧
    Fills settingsFields "log_file" readText Settings.logFile ∧
    Fills settingsFields "max_msg_size" readWord Settings.maxMessageSize ∧
    Fills settingsFields "proxy_from_env" readBool Settings.proxyFromEnvironment ∧
    Fills settingsFields "api" readText Settings.api ∧
    Fills settingsFields "username" (readOption readText) Settings.username ∧
    Fills settingsFields "password" (readOption readText) Settings.password ∧
    Fills settingsFields "insecure" readBool Settings.insecure ∧
    Fills settingsFields "skip_verify" readBool Settings.skipVerify ∧
    Fills settingsFields "timeout_in_ms" readWord Settings.timeoutMs := by
  refine ⟨?_, ?_, ?_, ?_, ?_, ?_, ?_, ?_, ?_, ?_, ?_, ?_, ?_⟩
  all_goals
    refine ⟨by decide, ?_⟩
    simp only [settingsFields, List.forall_mem_cons, List.not_mem_nil, false_implies, implies_true,
      and_true]
    refine ⟨?_, ?_, ?_, ?_, ?_, ?_, ?_, ?_, ?_, ?_, ?_, ?_, ?_⟩
    all_goals
      first
        | exact .inl ⟨rfl, sets_field fun _ _ => rfl⟩
        | exact .inr ⟨by decide, keeps_field fun _ _ => rfl⟩

theorem fills_target :
    Fills targetFields "name" readText Target.name ∧
    Fills targetFields "address" readText Target.address ∧
    Fills targetFields "username" (readOption readText) Target.username ∧
    Fills targetFields "password" (readOption readText) Target.password ∧
    Fills targetFields "insecure" (readOption readBool) Target.insecure ∧
    Fills targetFields "skip_verify" (readOption readBool) Target.skipVerify ∧
    Fills targetFields "timeout_in_ms" (readOption readWord) Target.timeoutMs ∧
    Fills targetFields "tls_ca" (readOption readText) Target.authorityFile ∧
    Fills targetFields "subscriptions" (readList readText) Target.subscriptions := by
  refine ⟨?_, ?_, ?_, ?_, ?_, ?_, ?_, ?_, ?_⟩
  all_goals
    refine ⟨by decide, ?_⟩
    simp only [targetFields, List.forall_mem_cons, List.not_mem_nil, false_implies, implies_true,
      and_true]
    refine ⟨?_, ?_, ?_, ?_, ?_, ?_, ?_, ?_, ?_⟩
    all_goals
      first
        | exact .inl ⟨rfl, sets_field fun _ _ => rfl⟩
        | exact .inr ⟨by decide, keeps_field fun _ _ => rfl⟩

theorem fills_declaration :
    Fills declarationFields "global" readSettings Declaration.settings ∧
    Fills declarationFields "targets" (readMap readTarget) Declaration.targets := by
  refine ⟨?_, ?_⟩
  all_goals
    refine ⟨by decide, ?_⟩
    simp only [declarationFields, List.forall_mem_cons, List.not_mem_nil, false_implies,
      implies_true, and_true]
    refine ⟨?_, ?_⟩
    all_goals
      first
        | exact .inl ⟨rfl, sets_field fun _ _ => rfl⟩
        | exact .inr ⟨by decide, keeps_field fun _ _ => rfl⟩

end Telemetry.Layer

namespace Telemetry

open Layer

namespace Layer

/-- The names of the settings. -/
def settingNames : List String := settingsFields.map (·.name)

/-- The names of the parts of a target that are single values. -/
def scalarNames : List String := (targetFields.map (·.name)).filter (· != "subscriptions")

end Layer

/-- What settings have taken from what is given for each name. -/
structure Settings.TakenFrom (given : String → Option Node) (settings : Settings) : Prop where
  format : Takes readText (given "format") default.format settings.format
  noLabels : Takes readBool (given "no_prefix") default.noLabels settings.noLabels
  debug : Takes readBool (given "debug") default.debug settings.debug
  log : Takes readBool (given "log") default.log settings.log
  logFile : Takes readText (given "log_file") default.logFile settings.logFile
  maxMessageSize :
    Takes readWord (given "max_msg_size") default.maxMessageSize settings.maxMessageSize
  proxyFromEnvironment :
    Takes readBool (given "proxy_from_env") default.proxyFromEnvironment
      settings.proxyFromEnvironment
  api : Takes readText (given "api") default.api settings.api
  username : Takes (readOption readText) (given "username") default.username settings.username
  password : Takes (readOption readText) (given "password") default.password settings.password
  insecure : Takes readBool (given "insecure") default.insecure settings.insecure
  skipVerify : Takes readBool (given "skip_verify") default.skipVerify settings.skipVerify
  timeoutMs : Takes readWord (given "timeout_in_ms") default.timeoutMs settings.timeoutMs

/-- What a target has taken from what is given for each name, apart from its subscriptions. -/
structure Target.TakenFrom (given : String → Option Node) (target : Target) : Prop where
  name : Takes readText (given "name") default.name target.name
  address : Takes readText (given "address") default.address target.address
  username : Takes (readOption readText) (given "username") default.username target.username
  password : Takes (readOption readText) (given "password") default.password target.password
  insecure : Takes (readOption readBool) (given "insecure") default.insecure target.insecure
  skipVerify :
    Takes (readOption readBool) (given "skip_verify") default.skipVerify target.skipVerify
  timeoutMs :
    Takes (readOption readWord) (given "timeout_in_ms") default.timeoutMs target.timeoutMs
  authorityFile :
    Takes (readOption readText) (given "tls_ca") default.authorityFile target.authorityFile

/-- What is given for each name makes out the settings. -/
theorem Settings.TakenFrom.eq {given : String → Option Node} {first second : Settings}
    (one : first.TakenFrom given) (other : second.TakenFrom given) : first = second := by
  cases first
  cases second
  congr
  · exact one.format.eq other.format
  · exact one.noLabels.eq other.noLabels
  · exact one.debug.eq other.debug
  · exact one.log.eq other.log
  · exact one.logFile.eq other.logFile
  · exact one.maxMessageSize.eq other.maxMessageSize
  · exact one.proxyFromEnvironment.eq other.proxyFromEnvironment
  · exact one.api.eq other.api
  · exact one.username.eq other.username
  · exact one.password.eq other.password
  · exact one.insecure.eq other.insecure
  · exact one.skipVerify.eq other.skipVerify
  · exact one.timeoutMs.eq other.timeoutMs

/-- Settings that are taken from what is given, and else from the defaults as they stand below, are
taken from what is given. -/
theorem Settings.TakenFrom.of_or {given below : String → Option Node} {settings : Settings}
    (taken : settings.TakenFrom fun name => (given name).or (below name))
    (own : Settings.default.TakenFrom below) : settings.TakenFrom given where
  format := taken.format.of_or own.format
  noLabels := taken.noLabels.of_or own.noLabels
  debug := taken.debug.of_or own.debug
  log := taken.log.of_or own.log
  logFile := taken.logFile.of_or own.logFile
  maxMessageSize := taken.maxMessageSize.of_or own.maxMessageSize
  proxyFromEnvironment := taken.proxyFromEnvironment.of_or own.proxyFromEnvironment
  api := taken.api.of_or own.api
  username := taken.username.of_or own.username
  password := taken.password.of_or own.password
  insecure := taken.insecure.of_or own.insecure
  skipVerify := taken.skipVerify.of_or own.skipVerify
  timeoutMs := taken.timeoutMs.of_or own.timeoutMs

/-- What is given for each name makes out a target, apart from its subscriptions. -/
theorem Target.TakenFrom.eq {given : String → Option Node} {first second : Target}
    (one : first.TakenFrom given) (other : second.TakenFrom given)
    (lists : first.subscriptions = second.subscriptions) : first = second := by
  cases first
  cases second
  congr
  · exact one.name.eq other.name
  · exact one.address.eq other.address
  · exact one.username.eq other.username
  · exact one.password.eq other.password
  · exact one.insecure.eq other.insecure
  · exact one.skipVerify.eq other.skipVerify
  · exact one.timeoutMs.eq other.timeoutMs
  · exact one.authorityFile.eq other.authorityFile

theorem Settings.TakenFrom.congr {given other : String → Option Node} {settings : Settings}
    (taken : settings.TakenFrom given) (same : ∀ field ∈ settingNames, given field = other field) :
    settings.TakenFrom other where
  format := same "format" (by decide) ▸ taken.format
  noLabels := same "no_prefix" (by decide) ▸ taken.noLabels
  debug := same "debug" (by decide) ▸ taken.debug
  log := same "log" (by decide) ▸ taken.log
  logFile := same "log_file" (by decide) ▸ taken.logFile
  maxMessageSize := same "max_msg_size" (by decide) ▸ taken.maxMessageSize
  proxyFromEnvironment := same "proxy_from_env" (by decide) ▸ taken.proxyFromEnvironment
  api := same "api" (by decide) ▸ taken.api
  username := same "username" (by decide) ▸ taken.username
  password := same "password" (by decide) ▸ taken.password
  insecure := same "insecure" (by decide) ▸ taken.insecure
  skipVerify := same "skip_verify" (by decide) ▸ taken.skipVerify
  timeoutMs := same "timeout_in_ms" (by decide) ▸ taken.timeoutMs

theorem Target.TakenFrom.congr {given other : String → Option Node} {target : Target}
    (taken : target.TakenFrom given) (same : ∀ part ∈ scalarNames, given part = other part) :
    target.TakenFrom other where
  name := same "name" (by decide) ▸ taken.name
  address := same "address" (by decide) ▸ taken.address
  username := same "username" (by decide) ▸ taken.username
  password := same "password" (by decide) ▸ taken.password
  insecure := same "insecure" (by decide) ▸ taken.insecure
  skipVerify := same "skip_verify" (by decide) ▸ taken.skipVerify
  timeoutMs := same "timeout_in_ms" (by decide) ▸ taken.timeoutMs
  authorityFile := same "tls_ca" (by decide) ▸ taken.authorityFile

namespace Layer

variable {node tree : Node} {origin : Option String} {entries : List (String × Node)}
  {declaration : Declaration}

theorem readSettings_takenFrom {settings : Settings} (tidy : (Node.table origin entries).Tidy)
    (reads : readSettings (.table origin entries) = .ok settings) :
    settings.TakenFrom (findEntry · entries) := by
  have ascending := tidy.ascending
  obtain ⟨format, noLabels, debug, log, logFile, maxMessageSize, proxyFromEnvironment, api,
    username, password, insecure, skipVerify, timeoutMs⟩ := fills_settings
  exact {
    format := setByName_takes format ascending reads
    noLabels := setByName_takes noLabels ascending reads
    debug := setByName_takes debug ascending reads
    log := setByName_takes log ascending reads
    logFile := setByName_takes logFile ascending reads
    maxMessageSize := setByName_takes maxMessageSize ascending reads
    proxyFromEnvironment := setByName_takes proxyFromEnvironment ascending reads
    api := setByName_takes api ascending reads
    username := setByName_takes username ascending reads
    password := setByName_takes password ascending reads
    insecure := setByName_takes insecure ascending reads
    skipVerify := setByName_takes skipVerify ascending reads
    timeoutMs := setByName_takes timeoutMs ascending reads }

theorem readTarget_takenFrom {target : Target} (tidy : (Node.table origin entries).Tidy)
    (reads : readTarget (.table origin entries) = .ok target) :
    target.TakenFrom (findEntry · entries) ∧
      Takes (readList readText) (findEntry "subscriptions" entries) [] target.subscriptions := by
  have ascending := tidy.ascending
  obtain ⟨name, address, username, password, insecure, skipVerify, timeoutMs, authorityFile,
    subscriptions⟩ := fills_target
  exact ⟨{
    name := setByName_takes name ascending reads
    address := setByName_takes address ascending reads
    username := setByName_takes username ascending reads
    password := setByName_takes password ascending reads
    insecure := setByName_takes insecure ascending reads
    skipVerify := setByName_takes skipVerify ascending reads
    timeoutMs := setByName_takes timeoutMs ascending reads
    authorityFile := setByName_takes authorityFile ascending reads },
    setByName_takes subscriptions ascending reads⟩

/-- What is read from a tree: the settings from what stands under their name, and each target from
what stands under its own among the targets. -/
theorem readDeclaration_cases (isTable : ∃ origin entries, tree = .table origin entries)
    (tidy : tree.Tidy) (reads : readDeclaration tree = .ok declaration) :
    Takes readSettings (tree.at? ["global"]) Settings.default declaration.settings ∧
      ∀ name,
        (tree.at? ["targets", name] = none ∧ declaration.targets.get? name = none) ∨
          ∃ node target, tree.at? ["targets", name] = some node ∧ readTarget node = .ok target ∧
            declaration.targets.get? name = some target := by
  obtain ⟨origin, entries, rfl⟩ := isTable
  obtain ⟨settingsField, targetsField⟩ := fills_declaration
  have ascending := tidy.ascending
  have settings := setByName_takes settingsField ascending reads
  have targets := setByName_takes targetsField ascending reads
  refine ⟨?_, ?_⟩
  · rw [Node.at?_table]
    exact settings
  · intro name
    rw [Node.at?_cons]
    change ((findEntry "targets" entries).bind (·.at? [name]) = none ∧ _) ∨
      ∃ node target, (findEntry "targets" entries).bind (·.at? [name]) = some node ∧ _
    cases found : findEntry "targets" entries with
    | none =>
        rw [found] at targets
        have nothing : declaration.targets = NameMap.empty := targets
        exact .inl ⟨rfl, by rw [nothing]; rfl⟩
    | some node =>
        rw [found] at targets
        have read : readMap readTarget node = .ok declaration.targets := targets
        have tidyNode := tidy.child found
        cases node with
        | leaf origin value => cases read
        | list origin items => cases read
        | table origin inner =>
            rw [Option.bind_some, Node.at?_table]
            exact readEntries_get? tidyNode.ascending read name

end Layer

end Telemetry
