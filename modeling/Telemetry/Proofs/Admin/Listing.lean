import Mathlib.Data.Finset.Card
import Telemetry.Proofs.Json.Reading
import Telemetry.Proofs.Json.Typed
import Telemetry.Proofs.Registry.Entries
import Telemetry.Proofs.SortedNames
import Telemetry.Proofs.Text.ByteOrder
import Telemetry.Service.Launch

/-!
The list of the live targets that the admin endpoint gives out. It is a JSON array from which the
names are read as they are, in the order of their bytes, and it is the same text in whatever order
the registry goes through its names.
-/

namespace Telemetry

variable {values others : List String} {text : String}

namespace Json

/-- A text is a JSON array of strings, and these are the strings that are read from it. -/
structure IsListOf (text : String) (values : List String) : Prop where
  isText : Grammar.IsText text.toList
  read : ∃ items, parse readingDepth text.toList = .ok (.array items) ∧
    readList readString (.array items) = .ok values

theorem IsListOf.eq (one : IsListOf text values) (other : IsListOf text others) :
    values = others := by
  obtain ⟨items, parsed, read⟩ := one.read
  obtain ⟨otherItems, otherParsed, otherRead⟩ := other.read
  rw [parsed] at otherParsed
  obtain rfl := Json.array.inj (Except.ok.inj otherParsed)
  rw [read] at otherRead
  exact Except.ok.inj otherRead

theorem nesting_strings (values : List String) : nesting (strings values) = 1 := by
  have flat : nestingItems (values.map .string) = 0 := by
    induction values with
    | nil => rfl
    | cons first rest ih => simp only [List.map_cons, nestingItems, nesting, ih, Nat.max_self]
  rw [strings, nesting, flat]

/-- Strings are read back from their list, whatever characters they have. -/
theorem isListOf_strings (values : List String) : IsListOf (strings values).compact values := by
  have exact : (strings values).Exact := RoundTrip.string.list.exact values
  have shallow : nesting (strings values) ≤ readingDepth := by
    rw [nesting_strings]
    decide
  have text : (strings values).compact.toList = laid .none 0 (strings values) ++ [] := by
    rw [compact, String.toList_ofList, laid_none, List.append_nil]
  refine ⟨?_, values.map .string, ?_, RoundTrip.string.list.back values⟩
  · rw [text]
    exact Grammar.isText_laid Grammar.areBlank_none exact 0 Grammar.isBlank_nil
  · rw [text]
    exact parse_laid Grammar.areBlank_none exact shallow 0 Grammar.isBlank_nil

end Json

namespace Registry

variable {registry : Registry} {live : Finset String}

theorem coe_names (registered : ∀ name, (registry.entryAt? name).isSome ↔ name ∈ live) :
    (registry.names : Multiset String) = live.val := by
  refine (Multiset.Nodup.ext ?_ live.nodup).mpr fun name => ?_
  · exact Multiset.coe_nodup.mpr (NameMap.names_nodup _)
  · rw [Multiset.mem_coe, mem_names, registered, Finset.mem_val]

theorem count_eq_card (registered : ∀ name, (registry.entryAt? name).isSome ↔ name ∈ live) :
    registry.count = live.card := by
  rw [Finset.card, ← coe_names registered, Multiset.coe_card]
  exact (NameMap.length_names registry.entries).symm

end Registry

namespace Admin

open Json (IsListOf)

theorem respond_targets (names : List String) (metrics : Metrics) :
    respond names metrics "GET" "/api/v1/targets" = ⟨200, some jsonText, targetsBody names⟩ := by
  have route : Route.ofPath? (pathOf "/api/v1/targets") = some .targets := by decide
  simp only [respond, route, if_true, Route.answer]

/-- Two lists have the same body just when they are the same names, in whatever order. -/
theorem targetsBody_eq_iff {first second : List String} :
    targetsBody first = targetsBody second ↔ first.Perm second := by
  rw [← sortedNames_eq_iff]
  refine ⟨fun same => ?_, fun same => by rw [targetsBody, targetsBody, same]⟩
  have listed := Json.isListOf_strings (sortedNames first)
  rw [← targetsBody, same] at listed
  exact listed.eq (Json.isListOf_strings (sortedNames second))

/-- Asked for the live targets, a set of names in whatever order, the endpoint answers with a JSON
array of exactly these names, each of them once and in the order of their bytes. Two answers have
the same body just when they are about the same set. A collector answers so about the names in its
registry, of which there are as many as it counts. -/
theorem targets_body_lists_live {live : Finset String} {order : List String}
    (visits : (order : Multiset String) = live.val) (metrics : Metrics) :
    let response := respond order metrics "GET" "/api/v1/targets"
    response.status = 200 ∧ response.contentType = some jsonText ∧
    (∃ listed, IsListOf response.body listed ∧
      listed.Pairwise (fun a b => Text.Utf8.encode a.toList < Text.Utf8.encode b.toList) ∧
      ∀ name, listed.count name = if name ∈ live then 1 else 0) ∧
    (∀ (otherLive : Finset String) (otherOrder : List String) (otherMetrics : Metrics),
      (otherOrder : Multiset String) = otherLive.val →
      ((respond otherOrder otherMetrics "GET" "/api/v1/targets").body = response.body ↔
        otherLive = live)) ∧
    ∀ service : DefaultService,
      (∀ name, (service.reconciler.registry.entryAt? name).isSome ↔ name ∈ live) →
      service.respond "GET" "/api/v1/targets" = response ∧
        service.reconciler.registry.count = live.card := by
  intro response
  have answered : response = ⟨200, some jsonText, targetsBody order⟩ := respond_targets order metrics
  have once : order.Nodup := by
    rw [← Multiset.coe_nodup, visits]
    exact live.nodup
  refine ⟨by rw [answered], by rw [answered], ⟨sortedNames order, ?listed, ?ascending, ?counted⟩,
    fun otherLive otherOrder otherMetrics otherVisits => ?same, fun service registered => ?service⟩
  case listed =>
    rw [answered]
    exact Json.isListOf_strings (sortedNames order)
  case ascending =>
    exact (sortedNames_ascending once).imp Text.Utf8.lt_iff_encode_lt.mp
  case counted =>
    intro name
    have member : name ∈ order ↔ name ∈ live := by
      rw [← Multiset.mem_coe, visits, Finset.mem_val]
    rw [(sortedNames_perm order).count_eq, once.count]
    exact if_congr member rfl rfl
  case same =>
    rw [answered, respond_targets, targetsBody_eq_iff, ← Multiset.coe_eq_coe, otherVisits, visits,
      Finset.val_inj]
  case service =>
    have visited : service.reconciler.registry.names.Perm order := by
      rw [← Multiset.coe_eq_coe, Registry.coe_names registered, visits]
    refine ⟨?_, Registry.count_eq_card registered⟩
    rw [answered, ← targetsBody_eq_iff.mpr visited]
    exact respond_targets _ _

/-- Names with a quote, a newline and a letter of two bytes. -/
theorem awkward_names_listed :
    let order := ["é", "b", "a\"\n"]
    let live : Finset String := {"a\"\n", "é", "b"}
    let response := respond order Metrics.zero "GET" "/api/v1/targets"
    (order : Multiset String) = live.val ∧
    ∃ listed, IsListOf response.body listed ∧
      listed.Pairwise (fun a b => Text.Utf8.encode a.toList < Text.Utf8.encode b.toList) ∧
      ∀ name, listed.count name = if name ∈ live then 1 else 0 := by
  intro order live
  have visits : (order : Multiset String) = live.val := by decide
  obtain ⟨_, _, listing, _⟩ := targets_body_lists_live visits Metrics.zero
  exact ⟨visits, listing⟩

example : targetsBody ["é", "b", "a\"\n"] = "[\"a\\\"\\n\",\"b\",\"é\"]" := by cbv

end Admin

end Telemetry
