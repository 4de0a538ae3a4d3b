import Telemetry.Proofs.Declaration.Addresses

/-!
Addresses after resolution. Resolution is meant to leave every address with a port, so that nothing
is left to be done to it. It does so for all but two kinds of address: those whose port is announced
and left out, and those that open a bracket which is closed neither at the end nor before a port.
-/

namespace Telemetry

variable {address text more : List Char}

/-- A colon, and behind it at least one character and no colon. -/
def EndsInPort (address : List Char) : Prop :=
  ∃ host port, address = host ++ ':' :: port ∧ port ≠ [] ∧ ':' ∉ port

/-- A port is announced and left out. -/
def LacksPort (address : List Char) : Prop :=
  address.getLast? = some ':' ∧
    if address.head? = some '[' then portMark <:+: address else address.count ':' = 1

/-- A bracket is opened and closed neither at the end nor in front of a port. -/
def StaysOpen (address : List Char) : Prop :=
  address.head? = some '[' ∧ ¬ portMark <:+: address ∧ address.getLast? ≠ some ']'

instance (address : List Char) : Decidable (LacksPort address) :=
  inferInstanceAs (Decidable (_ ∧ _))

instance (address : List Char) : Decidable (StaysOpen address) :=
  inferInstanceAs (Decidable (_ ∧ _))

section Ports

theorem hasPort_iff : hasPort address = true ↔
    if address.head? = some '[' then portMark <:+: address else address.count ':' = 1 := by
  by_cases isBracket : address.head? = some '['
  · obtain ⟨rest, rfl⟩ := List.head?_eq_some_iff.mp isBracket
    rw [if_pos isBracket, hasPort_of_bracket, hasBracketedPort_iff, List.infix_cons_iff]
    simp [portMark]
  · rw [if_neg isBracket, hasPort_of_host isBracket, beq_iff_eq]

theorem lacksPort_iff :
    LacksPort address ↔ address.getLast? = some ':' ∧ hasPort address = true := by
  rw [LacksPort, hasPort_iff]

theorem colon_mem_of_hasPort (ported : hasPort address = true) : ':' ∈ address := by
  rw [hasPort_iff] at ported
  split at ported
  · exact ported.subset (by simp [portMark])
  · exact List.count_pos_iff.mp (by omega)

theorem endsInPort_iff :
    EndsInPort address ↔ ':' ∈ address ∧ address.getLast? ≠ some ':' := by
  constructor
  · intro ends
    obtain ⟨host, port, rfl, nonempty, unbroken⟩ := ends
    refine ⟨by simp, ?_⟩
    intro last
    obtain ⟨first, rest, rfl⟩ := List.exists_cons_of_ne_nil nonempty
    rw [List.getLast?_append_cons, List.getLast?_cons_cons] at last
    exact unbroken (List.mem_of_getLast? last)
  · intro both
    obtain ⟨colon, last⟩ := both
    -- the last colon is the first one from behind
    obtain ⟨port, host, cut, unbroken⟩ :=
      List.eq_append_cons_of_mem (List.mem_reverse.mpr colon)
    have whole : address = host.reverse ++ ':' :: port.reverse := by
      rw [← address.reverse_reverse, cut]
      simp
    refine ⟨host.reverse, port.reverse, whole, ?_, by simpa using unbroken⟩
    intro nothing
    rw [whole, nothing] at last
    simp at last

theorem hasBracketedPort_append_colon (noClosing : ']' ∉ more) :
    hasBracketedPort (text ++ ':' :: more) = true ↔
      hasBracketedPort text = true ∨ text.getLast? = some ']' := by
  induction text with
  | nil =>
      have behind := hasBracketedPort_append noClosing []
      rw [List.append_nil] at behind
      rw [List.nil_append, hasBracketedPort_cons (by decide), behind]
      simp
  | cons c text ih =>
      cases text with
      | nil =>
          by_cases closing : c = ']'
          · subst closing
            simp [hasBracketedPort]
          · rw [List.cons_append, hasBracketedPort_cons closing, ih, hasBracketedPort_cons closing]
            simp [closing]
      | cons next text =>
          rw [List.getLast?_cons_cons]
          by_cases marked : c = ']' ∧ next = ':'
          · obtain ⟨rfl, rfl⟩ := marked
            simp [hasBracketedPort]
          · have skips : ∀ rest, hasBracketedPort (c :: next :: rest) =
                hasBracketedPort (next :: rest) := by
              intro rest
              rw [hasBracketedPort]
              intro tail isBracket isColon
              exact marked ⟨isBracket, (List.cons.inj isColon).1⟩
            rw [List.cons_append, List.cons_append, skips, skips]
            exact ih

end Ports

section Resolving

theorem endsInPort_withPort_iff : EndsInPort (withPort address) ↔ ¬ LacksPort address := by
  rw [lacksPort_iff]
  cases ported : hasPort address with
  | true =>
      rw [withPort_of_hasPort ported, endsInPort_iff]
      simp [colon_mem_of_hasPort ported]
  | false =>
      rw [withPort_of_not_hasPort ported]
      refine iff_of_true ⟨bracketed address, "57400".toList, rfl, by decide, by decide⟩ ?_
      simp

/-- An address without a port that opens a bracket gets a port behind it, which counts as one when
the bracket has been closed at the end. -/
theorem hasPort_withPort_of_bracket (isBracket : address.head? = some '[')
    (bare : hasPort address = false) :
    hasPort (withPort address) = true ↔ address.getLast? = some ']' := by
  obtain ⟨rest, rfl⟩ := List.head?_eq_some_iff.mp isBracket
  have unmarked : hasBracketedPort rest = false := bare
  have ported : hasPort ('[' :: rest ++ ":57400".toList) = true ↔ rest.getLast? = some ']' := by
    have noClosing : ']' ∉ "57400".toList := by decide
    rw [List.cons_append, hasPort_of_bracket]
    exact (hasBracketedPort_append_colon noClosing).trans (by simp [unmarked])
  rw [withPort_of_not_hasPort bare, bracketed_of_plain (.inl isBracket), ported]
  cases rest with
  | nil => simp
  | cons next rest => rw [List.getLast?_cons_cons]

theorem hasPort_withPort_of_host (unbracketed : address.head? ≠ some '[') :
    hasPort (withPort address) = true := by
  cases ported : hasPort address with
  | true => rw [withPort_of_hasPort ported, ported]
  | false =>
      rw [withPort_of_not_hasPort ported]
      by_cases colon : ':' ∈ address
      · rw [bracketed_of_colon unbracketed colon, List.cons_append, hasPort_of_bracket,
          hasBracketedPort_iff]
        exact ⟨address, "57400".toList, by simp [portMark]⟩
      · have stillHost : (address ++ ":57400".toList).head? ≠ some '[' := by
          cases address with
          | nil => decide
          | cons first rest => simpa using unbracketed
        rw [bracketed_of_plain (.inr colon), hasPort_of_host stillHost, List.count_append,
          List.count_eq_zero.mpr colon]
        decide

theorem hasPort_withPort_iff : hasPort (withPort address) = true ↔ ¬ StaysOpen address := by
  by_cases isBracket : address.head? = some '['
  · cases ported : hasPort address with
    | true =>
        have marked := hasPort_iff.mp ported
        rw [if_pos isBracket] at marked
        rw [withPort_of_hasPort ported]
        exact iff_of_true ported fun stays => stays.2.1 marked
    | false =>
        have unmarked : ¬ portMark <:+: address := by
          intro marked
          rw [hasPort_iff.mpr (by rwa [if_pos isBracket])] at ported
          cases ported
        rw [hasPort_withPort_of_bracket isBracket ported, StaysOpen]
        simp [isBracket, unmarked]
  · exact iff_of_true (hasPort_withPort_of_host isBracket) fun stays => isBracket stays.1

theorem length_le_bracketed (address : List Char) :
    address.length ≤ (bracketed address).length := by
  unfold bracketed
  split
  · simp only [List.length_cons, List.length_append]
    omega
  · exact Nat.le_refl _

theorem withPort_eq_self_iff : withPort address = address ↔ hasPort address = true := by
  constructor
  · intro same
    cases ported : hasPort address with
    | true => rfl
    | false =>
        rw [withPort_of_not_hasPort ported] at same
        have longer := length_le_bracketed address
        have lengths := congrArg List.length same
        rw [List.length_append] at lengths
        have some : 0 < ":57400".toList.length := by decide
        omega
  · exact withPort_of_hasPort

theorem withPort_ne_nil (address : List Char) : withPort address ≠ [] := by
  cases ported : hasPort address with
  | true =>
      rw [withPort_of_hasPort ported]
      exact List.ne_nil_of_mem (colon_mem_of_hasPort ported)
  | false =>
      rw [withPort_of_not_hasPort ported]
      simp

end Resolving

namespace Target

variable {target : Target} {key : String} {settings : Settings}

/-- The address that a target goes by under a key. -/
def written (target : Target) (key : String) : List Char :=
  (if target.address = "" then key else target.address).toList

theorem toList_address_resolve (target : Target) (key : String) (settings : Settings) :
    (target.resolve key settings).address.toList = withPort (target.written key) :=
  toList_resolvedAddress key target.address

theorem address_resolve_ne_empty (target : Target) (key : String) (settings : Settings) :
    (target.resolve key settings).address ≠ "" := by
  intro empty
  have nothing := toList_address_resolve target key settings
  rw [empty] at nothing
  exact withPort_ne_nil _ nothing.symm

/-- All but the address is settled by the first resolution. -/
theorem resolve_resolve (target : Target) (key : String) (settings : Settings) :
    let resolved := target.resolve key settings
    resolved.resolve key settings =
      { resolved with address := resolvedAddress key resolved.address } := by
  cases named : target.username <;> cases secret : target.password <;>
    simp [resolve, named, secret]

theorem with_address_eq_self_iff {address : String} :
    ({ target with address := address } : Target) = target ↔ address = target.address := by
  cases target
  simp

theorem resolve_eq_self_iff :
    let resolved := target.resolve key settings
    resolved.resolve key settings = resolved ↔ hasPort resolved.address.toList = true := by
  intro resolved
  have nonempty : resolved.address ≠ "" := address_resolve_ne_empty target key settings
  have again :
      (resolvedAddress key resolved.address).toList = withPort resolved.address.toList := by
    rw [toList_resolvedAddress, if_neg nonempty]
  rw [target.resolve_resolve key settings, with_address_eq_self_iff, ← String.toList_inj, again,
    withPort_eq_self_iff]

/-- When a resolved address is in its final form. It ends in a port unless the port was announced
and left out; it counts as one with a port, and a second resolution leaves the target as it is,
unless it opens a bracket that is closed neither at the end nor in front of a port. -/
theorem resolved_is_final_iff (target : Target) (key : String) (settings : Settings) :
    let resolved := target.resolve key settings
    (EndsInPort resolved.address.toList ↔ ¬ LacksPort (target.written key)) ∧
      (hasPort resolved.address.toList = true ↔ ¬ StaysOpen (target.written key)) ∧
      (resolved.resolve key settings = resolved ↔ ¬ StaysOpen (target.written key)) := by
  intro resolved
  have isWritten : resolved.address.toList = withPort (target.written key) :=
    toList_address_resolve target key settings
  have ported : hasPort resolved.address.toList = true ↔ ¬ StaysOpen (target.written key) := by
    rw [isWritten, hasPort_withPort_iff]
  refine ⟨?_, ported, ?_⟩
  · rw [isWritten, endsInPort_withPort_iff]
  · rw [← ported]
    exact resolve_eq_self_iff

/-- A port that is announced and left out, and a bracket that is not closed. -/
theorem unfinished_addresses :
    let portless := (ofAddress "r1" "router1:").resolve "r1" Settings.default
    let opened := (ofAddress "r1" "[fe80::1").resolve "r1" Settings.default
    portless.address = "router1:" ∧ ¬ EndsInPort portless.address.toList ∧
      opened.address = "[fe80::1:57400" ∧ hasPort opened.address.toList = false ∧
      (opened.resolve "r1" Settings.default).address = "[fe80::1:57400:57400" := by
  refine ⟨by decide, ?_, by decide, by decide, by decide⟩
  rw [endsInPort_iff]
  decide

end Target

end Telemetry
