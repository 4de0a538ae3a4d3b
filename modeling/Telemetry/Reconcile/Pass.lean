import Telemetry.Declaration.Basic
import Telemetry.Error
import Telemetry.Log
import Telemetry.Metrics
import Telemetry.Program
import Telemetry.Reconcile.Report
import Telemetry.Text.Quoted

/-!
A pass brings the registry in line with what is declared. It reads the declared targets and the live
names once, deletes what is live and not declared, and then adds what is declared and not live, each
in ascending order of the names. Targets are told apart by their names only. A failed step is noted
and does not stop the others.
-/

namespace Telemetry

/-- What a pass asks of its surroundings. -/
inductive PassQuestion where
  /-- The declared targets as of now. -/
  | declared
  /-- The live names as of now, in any order. -/
  | live
  | delete (name : String)
  | add (target : Target)
  /-- Begin the initialisation of the target of a name. -/
  | spawn (name : String)
  | count (operation : Operation) (success : Bool)
  | note (entry : LogEntry)

def PassQuestion.Answer : PassQuestion → Type
  | .declared => Except Error TargetSet
  | .live => List String
  | .delete _ => Except Error Unit
  | .add _ => Except Error Unit
  | .spawn _ => Unit
  | .count _ _ => Unit
  | .note _ => Unit

abbrev PassProgram := Program PassQuestion.Answer

namespace Pass

/-- The names that are live and not declared, ascending. -/
def stale (declared : TargetSet) (live : List String) : List String :=
  sortedNames (live.filter (fun name => !declared.contains name))

/-- The targets that are declared and not live, with their names, ascending. -/
def fresh (declared : TargetSet) (live : List String) : List (String × Target) :=
  declared.entries.filter (fun entry => !live.contains entry.1)

def unreadEntry (reason : Error) : LogEntry :=
  ⟨.error, .reconciler, "failed getting targets from new config: " ++ reason.message⟩

def failedDeleteEntry (name : String) (reason : Error) : LogEntry :=
  ⟨.error, .reconciler, "failed to delete target " ++ Text.quoted name ++ ": " ++ reason.message⟩

def failedAddEntry (name : String) (reason : Error) : LogEntry :=
  ⟨.error, .reconciler, "failed adding target " ++ Text.quoted name ++ ": " ++ reason.message⟩

def summaryEntry (report : Report) : LogEntry :=
  ⟨.info, .reconciler,
    "targets reconciled added=" ++ toString report.added.length ++ " deleted=" ++
      toString report.deleted.length ++ " failed=" ++ toString report.failures⟩

def deleteAll : List String → Report → PassProgram Report
  | [], report => .done report
  | name :: names, report =>
      .ask (.delete name) fun
        | .ok () =>
            .ask (.count .delete true) fun _ => deleteAll names (report.deletion name true)
        | .error reason =>
            .ask (.count .delete false) fun _ =>
              .ask (.note (failedDeleteEntry name reason)) fun _ =>
                deleteAll names (report.deletion name false)

/-- Adds targets, each with its initialisation begun as soon as it is added. -/
def addAll : List (String × Target) → Report → PassProgram Report
  | [], report => .done report
  | (name, target) :: targets, report =>
      .ask (.add target) fun
        | .ok () =>
            .ask (.count .add true) fun _ =>
              .ask (.spawn name) fun _ => addAll targets (report.addition name true)
        | .error reason =>
            .ask (.count .add false) fun _ =>
              .ask (.note (failedAddEntry name reason)) fun _ =>
                addAll targets (report.addition name false)

/-- Ends a pass, with a word about it if it did anything. -/
def finish (report : Report) : PassProgram (Option Report) :=
  if report.isNoop then .done (some report)
  else .ask (.note (summaryEntry report)) fun _ => .done (some report)

/-- Goes through the differences between what is declared and what is live. -/
def apply (declared : TargetSet) (live : List String) : PassProgram Report :=
  (deleteAll (stale declared live) Report.empty).bind (addAll (fresh declared live))

/-- A pass over declared targets that could be read. -/
def forDeclared (declared : TargetSet) : PassProgram (Option Report) :=
  .ask .live fun live => (apply declared live).bind finish

/-- One pass. That nothing is declared is no failure; when the declaration cannot be read for any
other reason, there is no report and nothing is touched. -/
def program : PassProgram (Option Report) :=
  .ask .declared fun
    | .ok declared => forDeclared declared
    | .error reason =>
        if reason.isNoTargets then forDeclared NameMap.empty
        else .ask (.note (unreadEntry reason)) fun _ => .done none

end Pass

end Telemetry
