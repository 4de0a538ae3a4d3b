import Telemetry.Proofs.Reconcile.Concurrent

/-!
Passes that have come to their end. Such a pass has deleted all that was live and not declared and
has added and spawned all that was declared and not live, by what it has read at its beginning; or
it could not read what is declared, and has done nothing. Its report says which it was.
-/

namespace Telemetry

open Program (Leads)

namespace Pass

/-- From one report to another by the deletion of some names and the addition of some targets. Each
of them is asked for once and in order, and each target that could be added is spawned. -/
inductive CarriesOut :
    Report → List String → List (String × Target) → List (Exchange PassQuestion.Answer) →
      Report → Prop
  | nothing (report : Report) : CarriesOut report [] [] [] report
  | deleted {report after : Report} {name : String} {names : List String}
      {targets : List (String × Target)} {others : List (Exchange PassQuestion.Answer)}
      (rest : CarriesOut (report.deletion name true) names targets others after) :
      CarriesOut report (name :: names) targets (⟨.delete name, .ok ()⟩ :: others) after
  | kept {report after : Report} {name : String} {names : List String}
      {targets : List (String × Target)} {others : List (Exchange PassQuestion.Answer)}
      (reason : Error)
      (rest : CarriesOut (report.deletion name false) names targets others after) :
      CarriesOut report (name :: names) targets (⟨.delete name, .error reason⟩ :: others) after
  | added {report after : Report} {name : String} {target : Target}
      {targets : List (String × Target)} {others : List (Exchange PassQuestion.Answer)}
      (rest : CarriesOut (report.addition name true) [] targets others after) :
      CarriesOut report [] ((name, target) :: targets)
        (⟨.add target, .ok ()⟩ :: ⟨.spawn name, ()⟩ :: others) after
  | refused {report after : Report} {name : String} {target : Target}
      {targets : List (String × Target)} {others : List (Exchange PassQuestion.Answer)}
      (reason : Error)
      (rest : CarriesOut (report.addition name false) [] targets others after) :
      CarriesOut report [] ((name, target) :: targets) (⟨.add target, .error reason⟩ :: others)
        after

/-- What a pass asked and was answered until it ended with a result. -/
inductive Complete : List (Exchange PassQuestion.Answer) → Option Report → Prop
  | unread {reason : Error} {asked : List (Exchange PassQuestion.Answer)}
      (unreadable : desired (.error reason) = none) (idle : deeds asked = []) :
      Complete (⟨.declared, .error reason⟩ :: asked) none
  | carried {answer : Except Error TargetSet} {declared : TargetSet} {live : List String}
      {asked : List (Exchange PassQuestion.Answer)} {report : Report}
      (goesBy : desired answer = some declared)
      (carriesOut : CarriesOut .empty (stale declared live) (fresh declared live) (deeds asked)
        report) :
      Complete (⟨.declared, answer⟩ :: ⟨.live, live⟩ :: asked) (some report)

variable {report after : Report} {asked : List (Exchange PassQuestion.Answer)}

theorem addAll_carriesOut {targets : List (String × Target)}
    (leads : Leads (addAll targets report) asked (.done after)) :
    CarriesOut report [] targets (deeds asked) after := by
  induction targets generalizing report asked with
  | nil =>
      obtain ⟨rfl, rfl⟩ := leads.eq_of_done
      exact .nothing report
  | cons first rest ih =>
      obtain ⟨name, target⟩ := first
      cases leads with
      | ask answer leads =>
          cases answer with
          | ok done =>
              obtain _ | ⟨_, _ | ⟨_, others⟩⟩ := leads
              have carriesOut := @ih (report.addition name true) _ others
              exact .added carriesOut
          | error reason =>
              obtain _ | ⟨_, _ | ⟨_, others⟩⟩ := leads
              have carriesOut := @ih (report.addition name false) _ others
              exact .refused reason carriesOut

theorem apply_carriesOut {names : List String} {targets : List (String × Target)}
    (leads : Leads ((deleteAll names report).bind (addAll targets)) asked (.done after)) :
    CarriesOut report names targets (deeds asked) after := by
  induction names generalizing report asked with
  | nil => exact addAll_carriesOut leads
  | cons name names ih =>
      cases leads with
      | ask answer leads =>
          cases answer with
          | ok done =>
              obtain _ | ⟨_, others⟩ := leads
              have carriesOut := @ih (report.deletion name true) _ others
              exact .deleted carriesOut
          | error reason =>
              obtain _ | ⟨_, _ | ⟨_, others⟩⟩ := leads
              have carriesOut := @ih (report.deletion name false) _ others
              exact .kept reason carriesOut

theorem finish_idle {result : Option Report} (leads : Leads (finish report) asked (.done result)) :
    result = some report ∧ deeds asked = [] := by
  unfold finish at leads
  split at leads
  · obtain ⟨rfl, rfl⟩ := leads.eq_of_done
    exact ⟨rfl, rfl⟩
  · obtain _ | ⟨_, leads⟩ := leads
    obtain ⟨rfl, rfl⟩ := leads.eq_of_done
    exact ⟨rfl, rfl⟩

/-- A pass that has come to its end has carried out what it had decided on. -/
theorem complete_of_leads {result : Option Report} (leads : Leads program asked (.done result)) :
    Complete asked result := by
  rw [program_eq] at leads
  obtain _ | ⟨answer, leads⟩ := leads
  rcases afterReading_cases answer with ⟨declared, goesBy, next⟩ | ⟨reason, rfl, unread, next⟩
  · rw [next] at leads
    obtain _ | ⟨live, leads⟩ := leads
    obtain ⟨first, second, report, rfl, through, last⟩ := leads.of_bind
    obtain ⟨rfl, idle⟩ := finish_idle last
    refine .carried goesBy ?_
    rw [deeds, List.filter_append]
    change CarriesOut _ _ _ (deeds first ++ deeds second) _
    rw [idle, List.append_nil]
    exact apply_carriesOut through
  · rw [next] at leads
    obtain _ | ⟨_, leads⟩ := leads
    obtain ⟨rfl, rfl⟩ := leads.eq_of_done
    exact .unread unread rfl

theorem CarriesOut.added_eq {names : List String} {targets : List (String × Target)}
    {deeds : List (Exchange PassQuestion.Answer)}
    (carriesOut : CarriesOut report names targets deeds after) :
    after.added = report.added ++ Reconciler.spawned deeds := by
  induction carriesOut with
  | nothing report => exact (List.append_nil _).symm
  | deleted rest ih => exact ih
  | kept reason rest ih => exact ih
  | added rest ih => exact ih.trans (List.append_assoc _ _ _)
  | refused reason rest ih => exact ih

def addedBy : Option Report → List String
  | some report => report.added
  | none => []

/-- What a pass has spawned is what its report says was added. -/
theorem Complete.spawned_eq {result : Option Report} (complete : Complete asked result) :
    Reconciler.spawned asked = addedBy result := by
  cases complete with
  | @unread reason asked unreadable idle =>
      change Reconciler.spawned asked = []
      rw [← Reconciler.spawned_deeds, idle]
      rfl
  | @carried answer declared live asked report goesBy carriesOut =>
      change Reconciler.spawned asked = report.added
      rw [← Reconciler.spawned_deeds, carriesOut.added_eq]
      rfl

end Pass

end Telemetry
