import Telemetry.Proofs.Reconcile.LiveNames
import Telemetry.Proofs.Reconcile.Serial

/-!
What is written down of passes, and what it tells of the registry. A name that a pass has added
keeps the descriptor that was declared for it then, until a pass that can read what is declared
finds the name gone; what else comes to be declared under the name meanwhile is nothing to it.
-/

namespace Telemetry

/-- What is written down of a pass. -/
structure PassRecord where
  /-- The names that were live when the pass began. -/
  found : List String
  /-- What the pass goes by, once it has read that, and if it could. -/
  goesBy : Option TargetSet
  /-- The names that the pass has added, first one first. -/
  added : List String

namespace PassRecord

def opened (found : List String) : PassRecord := ⟨found, none, []⟩

/-- Writes down what a question is answered. -/
def note (record : PassRecord) : (question : PassQuestion) → question.Answer → PassRecord
  | .declared, answer => { record with goesBy := Pass.desired answer }
  | .add target, .ok () => { record with added := record.added ++ [target.name] }
  | _, _ => record

/-- What the pass finds declared under a name. -/
def declared? (record : PassRecord) (name : String) : Option Target :=
  record.goesBy.bind (·.get? name)

/-- The name is declared, as far as the pass can read that. -/
def Keeps (record : PassRecord) (name : String) : Prop :=
  ∀ declared ∈ record.goesBy, name ∈ declared.names

instance (record : PassRecord) (name : String) : Decidable (record.Keeps name) :=
  inferInstanceAs (Decidable (∀ declared ∈ record.goesBy, name ∈ declared.names))

variable {record : PassRecord} {declared : TargetSet} {name : String}

theorem keeps_of_unread (unread : record.goesBy = none) : record.Keeps name := by
  intro declared goesBy
  rw [unread] at goesBy
  cases goesBy

theorem found_note (record : PassRecord) (question : PassQuestion) (answer : question.Answer) :
    (record.note question answer).found = record.found := by
  unfold note
  split <;> rfl

theorem goesBy_note {question : PassQuestion} (settled : Pass.IsSettled question)
    (record : PassRecord) (answer : question.Answer) :
    (record.note question answer).goesBy = record.goesBy := by
  unfold note
  split
  · exact absurd rfl settled
  · rfl
  · rfl

theorem keeps_iff (goesBy : record.goesBy = some declared) :
    record.Keeps name ↔ name ∈ declared.names := by
  simp [Keeps, goesBy]

end PassRecord

/-- The descriptor of a name by the records of all passes, last one first: what the last pass that
added the name found declared for it, if every pass since has kept it. -/
def tenure? (name : String) : List PassRecord → Option Target
  | [] => none
  | record :: earlier =>
      if name ∈ record.added then record.declared? name
      else if record.Keeps name then tenure? name earlier
      else none

section Tenure

variable {name : String} {record : PassRecord} {records earlier : List PassRecord} {target : Target}

theorem tenure?_added (added : name ∈ record.added) :
    tenure? name (record :: earlier) = record.declared? name := by
  rw [tenure?, if_pos added]

theorem tenure?_kept (notAdded : name ∉ record.added) (keeps : record.Keeps name) :
    tenure? name (record :: earlier) = tenure? name earlier := by
  rw [tenure?, if_neg notAdded, if_pos keeps]

theorem tenure?_dropped (notAdded : name ∉ record.added) (dropped : ¬ record.Keeps name) :
    tenure? name (record :: earlier) = none := by
  rw [tenure?, if_neg notAdded, if_neg dropped]

/-- What a pass does not find declared it drops. -/
theorem tenure?_undeclared {found added : List String} {declared : TargetSet}
    (known : ∀ name ∈ added, name ∈ declared.names) (undeclared : name ∉ declared.names) :
    tenure? name (⟨found, some declared, added⟩ :: earlier) = none :=
  tenure?_dropped (fun isAdded => undeclared (known name isAdded)) fun keeps =>
    undeclared ((PassRecord.keeps_iff rfl).mp keeps)

theorem tenure?_add (record : PassRecord) (earlier : List PassRecord) (name other : String) :
    tenure? other ({ record with added := record.added ++ [name] } :: earlier) =
      if other = name then record.declared? other else tenure? other (record :: earlier) := by
  have member : other ∈ record.added ++ [name] ↔ other ∈ record.added ∨ other = name := by simp
  simp only [tenure?, member]
  by_cases same : other = name
  · rw [if_pos same, if_pos (.inr same)]
    rfl
  · rw [if_neg same]
    simp only [same, or_false]
    rfl

theorem tenure?_eq_some_iff : tenure? name records = some target ↔
    ∃ later record earlier, records = later ++ record :: earlier ∧
      name ∈ record.added ∧ record.declared? name = some target ∧
      ∀ one ∈ later, name ∉ one.added ∧ one.Keeps name := by
  constructor
  · intro holds
    induction records with
    | nil => cases holds
    | cons first rest ih =>
        by_cases added : name ∈ first.added
        · rw [tenure?_added added] at holds
          exact ⟨[], first, rest, rfl, added, holds, nofun⟩
        · by_cases keeps : first.Keeps name
          · rw [tenure?_kept added keeps] at holds
            obtain ⟨later, record, earlier, rfl, adds, declares, since⟩ := ih holds
            exact ⟨first :: later, record, earlier, rfl, adds, declares,
              List.forall_mem_cons.mpr ⟨⟨added, keeps⟩, since⟩⟩
          · rw [tenure?_dropped added keeps] at holds
            cases holds
  · rintro ⟨later, record, earlier, rfl, added, declares, since⟩
    induction later with
    | nil => exact (tenure?_added added).trans declares
    | cons first rest ih =>
        obtain ⟨⟨notAdded, keeps⟩, others⟩ := List.forall_mem_cons.mp since
        exact (tenure?_kept notAdded keeps).trans (ih others)

end Tenure

namespace PassQuestion

/-- The question is not about the target of a name. -/
def Spares (name : String) : PassQuestion → Prop
  | .delete other => name ≠ other
  | .add target => name ≠ target.name
  | .spawn other => name ≠ other
  | _ => True

end PassQuestion

namespace Pass

variable {α β : Type} {declared : TargetSet} {found leaving : List String}

/-- What is left of a pass that goes by what is declared and has found the names live: it has yet to
delete some that are not declared, and all that it adds and spawns is declared and was not found. -/
inductive Works (declared : TargetSet) (found : List String) :
    List String → PassProgram α → Prop where
  | done (result : α) : Works declared found [] (.done result)
  | delete {name : String} {leaving : List String} {next : Except Error Unit → PassProgram α}
      (undeclared : name ∉ declared.names)
      (rest : ∀ answer, Works declared found leaving (next answer)) :
      Works declared found (name :: leaving) (.ask (.delete name) next)
  | add {target : Target} {next : Except Error Unit → PassProgram α}
      (isDeclared : declared.get? target.name = some target) (missing : target.name ∉ found)
      (rest : ∀ answer, Works declared found [] (next answer)) :
      Works declared found [] (.ask (.add target) next)
  | spawn {name : String} {next : Unit → PassProgram α} (missing : name ∉ found)
      (rest : Works declared found [] (next ())) :
      Works declared found [] (.ask (.spawn name) next)
  | count {leaving : List String} {operation : Operation} {success : Bool}
      {next : Unit → PassProgram α} (rest : Works declared found leaving (next ())) :
      Works declared found leaving (.ask (.count operation success) next)
  | note {leaving : List String} {entry : LogEntry} {next : Unit → PassProgram α}
      (rest : Works declared found leaving (next ())) :
      Works declared found leaving (.ask (.note entry) next)

theorem Works.bind {program : PassProgram α} {next : α → PassProgram β}
    (works : Works declared found leaving program)
    (after : ∀ result, Works declared found [] (next result)) :
    Works declared found leaving (program.bind next) := by
  induction works with
  | done result => exact after result
  | delete undeclared _ ih => exact .delete undeclared ih
  | add isDeclared missing _ ih => exact .add isDeclared missing ih
  | spawn missing _ ih => exact .spawn missing ih
  | count _ ih => exact .count ih
  | note _ ih => exact .note ih

theorem works_deleteAll (undeclared : ∀ name ∈ leaving, name ∉ declared.names) (report : Report) :
    Works declared found leaving (deleteAll leaving report) := by
  induction leaving generalizing report with
  | nil => exact .done report
  | cons name names ih =>
      obtain ⟨own, others⟩ := List.forall_mem_cons.mp undeclared
      refine .delete own ?_
      rintro (reason | ⟨⟩)
      · exact .count (.note (ih others _))
      · exact .count (ih others _)

theorem works_addAll {targets : List (String × Target)}
    (missing : ∀ entry ∈ targets, entry.2.name = entry.1 ∧
      declared.get? entry.1 = some entry.2 ∧ entry.1 ∉ found) (report : Report) :
    Works declared found [] (addAll targets report) := by
  induction targets generalizing report with
  | nil => exact .done report
  | cons first rest ih =>
      obtain ⟨⟨own, isDeclared, notFound⟩, others⟩ := List.forall_mem_cons.mp missing
      refine .add (own ▸ isDeclared) (own ▸ notFound) ?_
      rintro (reason | ⟨⟩)
      · exact .count (.note (ih others _))
      · exact .count (.spawn notFound (ih others _))

theorem works_finish (report : Report) : Works declared found [] (finish report) := by
  unfold finish
  split
  · exact .done _
  · exact .note (.done _)

theorem works_apply (keyed : declared.IsKeyed) {live : List String}
    (all : ∀ name ∈ found, name ∈ live) :
    Works declared found (stale declared live) ((apply declared live).bind finish) := by
  refine .bind (.bind (works_deleteAll ?_ _) fun report => works_addAll ?_ report) works_finish
  · exact fun name member => (Reconciler.mem_stale.mp member).2
  · intro entry member
    obtain ⟨isDeclared, missing⟩ := Reconciler.mem_fresh.mp member
    exact ⟨keyed entry.1 entry.2 isDeclared, isDeclared, fun isFound => missing (all _ isFound)⟩

/-- A pass asks about no target that is declared and was found. -/
theorem Works.spares {question : PassQuestion} {next : question.Answer → PassProgram α}
    (works : Works declared found leaving (.ask question next)) {name : String}
    (isFound : name ∈ found) (isDeclared : name ∈ declared.names) : question.Spares name := by
  cases works with
  | delete undeclared _ => exact fun same => undeclared (same ▸ isDeclared)
  | add _ missing _ => exact fun same => missing (same ▸ isFound)
  | spawn missing _ => exact fun same => missing (same ▸ isFound)
  | count _ => trivial
  | note _ => trivial

end Pass

namespace Reconciler

variable {σ : Type}

/-- What is left of a pass, with what is written down of it, while the registry is in line with the
records but for the names that are yet to be deleted. -/
inductive UnderWay (registry : Registry) (earlier : List PassRecord) :
    PassRecord → PassProgram (Option Report) → Prop where
  | unread {found : List String} {program : PassProgram (Option Report)}
      (begins : program = Pass.program) (live : ∀ name ∈ found, name ∈ registry.names)
      (inLine : ∀ name, registry.target? name = tenure? name earlier) :
      UnderWay registry earlier (.opened found) program
  | refused {found : List String} {program : PassProgram (Option Report)}
      (notes : Program.AsksOnly (∃ entry, · = .note entry) program)
      (inLine : ∀ name, registry.target? name = tenure? name earlier) :
      UnderWay registry earlier (.opened found) program
  | reading {found : List String} {declared : TargetSet} {program : PassProgram (Option Report)}
      (begins : program = Pass.forDeclared declared) (keyed : declared.IsKeyed)
      (live : ∀ name ∈ found, name ∈ registry.names)
      (inLine : ∀ name, registry.target? name = tenure? name earlier) :
      UnderWay registry earlier ⟨found, some declared, []⟩ program
  | working {found added leaving : List String} {declared : TargetSet}
      {program : PassProgram (Option Report)} (works : Pass.Works declared found leaving program)
      (known : ∀ name ∈ added, name ∈ declared.names)
      (inLine : ∀ name, name ∉ leaving →
        registry.target? name = tenure? name (⟨found, some declared, added⟩ :: earlier)) :
      UnderWay registry earlier ⟨found, some declared, added⟩ program

namespace UnderWay

variable {registry after : Registry} {earlier : List PassRecord} {record : PassRecord}
  {program : PassProgram (Option Report)}

/-- It is the registered descriptors alone that a pass is in line with. -/
theorem congr (underWay : UnderWay registry earlier record program)
    (same : ∀ name, after.target? name = registry.target? name) :
    UnderWay after earlier record program := by
  have alive : ∀ name, name ∈ registry.names → name ∈ after.names := by
    intro name
    rw [Registry.mem_names_iff_target?, Registry.mem_names_iff_target?, same]
    exact id
  cases underWay with
  | unread begins live inLine =>
      exact .unread begins (fun name isFound => alive name (live name isFound))
        fun name => (same name).trans (inLine name)
  | refused notes inLine => exact .refused notes fun name => (same name).trans (inLine name)
  | reading begins keyed live inLine =>
      exact .reading begins keyed (fun name isFound => alive name (live name isFound))
        fun name => (same name).trans (inLine name)
  | working works known inLine =>
      exact .working works known fun name stays => (same name).trans (inLine name stays)

/-- A pass that is over leaves the registry in line with all records. -/
theorem ended {result : Option Report} (underWay : UnderWay registry earlier record (.done result))
    (name : String) : registry.target? name = tenure? name (record :: earlier) := by
  cases underWay with
  | unread begins _ _ => cases begins
  | refused _ inLine => rw [tenure?_kept List.not_mem_nil (PassRecord.keeps_of_unread rfl), inLine]
  | reading begins _ _ _ => cases begins
  | working works _ inLine =>
      cases works
      exact inLine name List.not_mem_nil

/-- A pass asks about no target that was live when it began, unless the name is not declared. -/
theorem spares {question : PassQuestion} {next : question.Answer → PassProgram (Option Report)}
    (underWay : UnderWay registry earlier record (.ask question next)) {name : String}
    (live : name ∈ record.found) (keeps : record.Keeps name) : question.Spares name := by
  cases underWay with
  | unread begins _ _ =>
      cases begins
      trivial
  | refused notes _ =>
      obtain ⟨entry, rfl⟩ := notes.1
      trivial
  | reading begins _ _ _ =>
      cases begins
      trivial
  | working works _ _ => exact works.spares live (keeps _ rfl)

/-- What is declared is written down once. -/
theorem keeps_of_note {question : PassQuestion}
    {next : question.Answer → PassProgram (Option Report)}
    (underWay : UnderWay registry earlier record (.ask question next)) {answer : question.Answer}
    {name : String} (keeps : (record.note question answer).Keeps name) : record.Keeps name := by
  have unlessRead (settled : Pass.IsSettled question) : record.Keeps name := by
    rwa [PassRecord.Keeps, PassRecord.goesBy_note settled] at keeps
  cases underWay with
  | unread _ _ _ => exact PassRecord.keeps_of_unread rfl
  | refused _ _ => exact PassRecord.keeps_of_unread rfl
  | reading begins _ _ _ =>
      cases begins
      exact unlessRead nofun
  | working works _ _ => cases works <;> exact unlessRead nofun

variable [TargetSource σ] {state : Reconciler σ Registry InitTask}

theorem read [KeyedSource σ] {found : List String}
    (live : ∀ name ∈ found, name ∈ state.registry.names)
    (inLine : ∀ name, state.registry.target? name = tenure? name earlier) :
    UnderWay state.registry earlier
      ⟨found, Pass.desired (TargetSource.read state.source).1, []⟩
      (Pass.afterReading (TargetSource.read state.source).1) := by
  have keyed := KeyedSource.keyed state.source
  rcases Pass.afterReading_cases (TargetSource.read state.source).1 with
    ⟨declared, goesBy, next⟩ | ⟨reason, _, goesBy, next⟩
  · rw [goesBy]
    exact .reading next (Pass.isKeyed_of_desired keyed goesBy) live inLine
  · rw [goesBy, next]
    exact .refused ⟨⟨_, rfl⟩, fun _ => trivial⟩ inLine

/-- What is live and not declared has yet to be deleted. -/
theorem differ {found : List String} {declared : TargetSet} (keyed : declared.IsKeyed)
    (live : ∀ name ∈ found, name ∈ registry.names)
    (inLine : ∀ name, registry.target? name = tenure? name earlier) :
    UnderWay registry earlier ⟨found, some declared, []⟩
      ((Pass.apply declared registry.names).bind Pass.finish) := by
  have nothing : ∀ name ∈ ([] : List String), name ∈ declared.names := nofun
  refine .working (Pass.works_apply keyed live) nothing ?_
  intro name stays
  by_cases isDeclared : name ∈ declared.names
  · rw [tenure?_kept List.not_mem_nil ((PassRecord.keeps_iff rfl).mpr isDeclared)]
    exact inLine name
  · rw [tenure?_undeclared nothing isDeclared, Registry.target?_eq_none_iff]
    exact fun live => stays (mem_stale.mpr ⟨live, isDeclared⟩)

section Working

variable {found added leaving : List String} {declared : TargetSet} {name : String}
  {target : Target}

theorem delete (undeclared : name ∉ declared.names)
    (works : Pass.Works declared found leaving program)
    (known : ∀ name ∈ added, name ∈ declared.names)
    (inLine : ∀ other, other ∉ name :: leaving →
      registry.target? other = tenure? other (⟨found, some declared, added⟩ :: earlier)) :
    UnderWay (registry.afterwards (registry.delete name)).2 earlier ⟨found, some declared, added⟩
      program := by
  refine .working works known ?_
  intro other stays
  rw [Registry.target?_afterwards_delete]
  split
  · rename_i same
    rw [same, tenure?_undeclared known undeclared]
  · rename_i notIt
    exact inLine other (List.not_mem_cons_of_ne_of_not_mem notIt stays)

theorem add (isDeclared : declared.get? target.name = some target)
    (works : Pass.Works declared found leaving program)
    (known : ∀ name ∈ added, name ∈ declared.names)
    (inLine : ∀ other, other ∉ leaving →
      registry.target? other = tenure? other (⟨found, some declared, added⟩ :: earlier)) :
    UnderWay (registry.registered target) earlier
      ⟨found, some declared, added ++ [target.name]⟩ program := by
  refine .working works ?_ ?_
  · intro name isAdded
    rcases List.mem_append.mp isAdded with before | last
    · exact known name before
    · rw [List.mem_singleton.mp last]
      exact NameMap.mem_names_of_get? isDeclared
  · intro other stays
    have written := tenure?_add ⟨found, some declared, added⟩ earlier target.name other
    rw [Registry.target?_registered]
    refine .trans ?_ written.symm
    split
    · rename_i same
      rw [same]
      exact isDeclared.symm
    · exact inLine other stays

end Working

/-- A pass that goes one question on is under way still. -/
theorem ask [KeyedSource σ] {question : PassQuestion}
    {next : question.Answer → PassProgram (Option Report)}
    (underWay : UnderWay state.registry earlier record (.ask question next)) :
    UnderWay (handler question state).2.registry earlier
      (record.note question (handler question state).1) (next (handler question state).1) := by
  cases underWay with
  | unread begins live inLine =>
      rw [Pass.program_eq] at begins
      cases begins
      exact read live inLine
  | refused notes inLine =>
      obtain ⟨⟨entry, rfl⟩, rest⟩ := notes
      exact .refused (rest _) inLine
  | reading begins keyed live inLine =>
      cases begins
      exact differ keyed live inLine
  | working works known inLine =>
      cases works with
      | delete undeclared rest => exact delete undeclared (rest _) known inLine
      | @add target _ isDeclared missing rest =>
          -- what is refused is neither registered nor written down as added
          rcases state.registry.afterwards_add_cases target with
            ⟨_, _, answer⟩ | ⟨_, reason, answer⟩
          · have asked : handler (.add target) state =
                (.ok (), { state with registry := state.registry.registered target }) := by
              simp only [handler, TargetRegistry.add, answer]
            rw [asked]
            exact add isDeclared (rest _) known inLine
          · have asked : handler (.add target) state = (.error reason, state) := by
              simp only [handler, TargetRegistry.add, answer]
            rw [asked]
            exact .working (rest _) known inLine
      | spawn missing rest => exact .working rest known inLine
      | count rest => exact .working rest known inLine
      | note rest => exact .working rest known inLine

end UnderWay

end Reconciler

end Telemetry
