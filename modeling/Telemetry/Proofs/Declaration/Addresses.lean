import Mathlib.Data.List.Infix
import Telemetry.Declaration.Resolution
import Telemetry.Link.Connection

/-!
Addresses, the ports that they end in, and the servers that they lead to. Three functions take an
address apart, each by a rule of its own: the test for a port, the brackets that are put around a
host, and the name that the server has to prove. On every form that an address may have they agree.
-/

namespace Telemetry

variable {address host port rest text : List Char}

section Ports

/-- A closing bracket in front of a port. -/
def portMark : List Char := [']', ':']

theorem hasBracketedPort_iff : hasBracketedPort text = true ↔ portMark <:+: text := by
  induction text with
  | nil => simp [hasBracketedPort, portMark]
  | cons c rest ih =>
      rw [List.infix_cons_iff]
      unfold hasBracketedPort
      split
      · rename_i same
        simp [portMark, same]
      · rename_i first more noMark same
        cases same
        have other : ¬ portMark <+: c :: rest := by
          intro marked
          obtain ⟨behind, written⟩ := marked
          obtain ⟨isBracket, isRest⟩ := List.cons.inj written
          exact noMark behind isBracket.symm isRest.symm
        rw [ih]
        exact ⟨.inr, fun either => either.resolve_left other⟩
      · rename_i same
        cases same

theorem hasBracketedPort_cons {c : Char} (other : c ≠ ']') (rest : List Char) :
    hasBracketedPort (c :: rest) = hasBracketedPort rest := by
  rw [hasBracketedPort]
  intro more isBracket
  exact absurd isBracket other

theorem hasBracketedPort_append (noClosing : ']' ∉ text) (rest : List Char) :
    hasBracketedPort (text ++ rest) = hasBracketedPort rest := by
  induction text with
  | nil => rfl
  | cons c text ih =>
      obtain ⟨other, others⟩ := List.ne_and_not_mem_of_not_mem_cons noClosing
      rw [List.cons_append, hasBracketedPort_cons other.symm, ih others]

theorem head?_ne_of_not_mem {c : Char} (absent : c ∉ text) : text.head? ≠ some c :=
  fun isHead => absent (List.mem_of_mem_head? isHead)

theorem head?_append_ne {c first : Char} (absent : c ∉ text) (other : first ≠ c) :
    (text ++ first :: rest).head? ≠ some c := by
  cases text with
  | nil => simpa using other
  | cons own more =>
      have sameHead : (own :: more ++ first :: rest).head? = (own :: more).head? := rfl
      rw [sameHead]
      exact head?_ne_of_not_mem absent

theorem hasPort_of_bracket (rest : List Char) :
    hasPort ('[' :: rest) = hasBracketedPort rest := rfl

theorem hasPort_of_host (unbracketed : address.head? ≠ some '[') :
    hasPort address = (address.count ':' == 1) := by
  unfold hasPort
  split
  · simp at unbracketed
  · rfl

theorem bracketed_of_colon (unbracketed : address.head? ≠ some '[') (colon : ':' ∈ address) :
    bracketed address = '[' :: (address ++ [']']) := by
  simp [bracketed, colon, unbracketed]

theorem bracketed_of_plain (plain : address.head? = some '[' ∨ ':' ∉ address) :
    bracketed address = address := by
  unfold bracketed
  rcases plain with isBracket | noColon
  · simp [isBracket]
  · simp [noColon]

theorem withPort_of_hasPort (ported : hasPort address = true) : withPort address = address := by
  rw [withPort, if_pos ported]

theorem withPort_of_not_hasPort (bare : hasPort address = false) :
    withPort address = bracketed address ++ ":57400".toList := by
  rw [withPort, bare, if_neg Bool.false_ne_true]
  rfl

end Ports

section Servers

theorem beforeLastColon_append (unbroken : ':' ∉ port) :
    beforeLastColon (host ++ ':' :: port) = host := by
  have passed : ∀ c ∈ port.reverse, (c != ':') = true := by
    intro c member
    have other : c ≠ ':' := by
      intro same
      exact unbroken (same ▸ List.mem_reverse.mp member)
    simp [other]
  have colon : (host ++ ':' :: port).contains ':' = true := by simp
  rw [beforeLastColon, if_pos colon, List.reverse_append, List.reverse_cons, List.append_assoc,
    List.dropWhile_append_of_pos passed]
  simp

theorem dropWhile_of_not_mem {c : Char} (absent : c ∉ text) : text.dropWhile (· == c) = text := by
  cases text with
  | nil => rfl
  | cons first rest =>
      have other : first ≠ c := fun same => absent (same ▸ List.mem_cons_self)
      simp [other]

/-- The server of an address with a port is the host in front of it. -/
theorem serverName_of_host (noOpening : '[' ∉ host) (noClosing : ']' ∉ host)
    (unbroken : ':' ∉ port) : serverName (host ++ ':' :: port) = host := by
  have colon : (host ++ ':' :: port).contains ':' = true := by simp
  have reversed : ']' ∉ host.reverse := fun member => noClosing (List.mem_reverse.mp member)
  rw [serverName, if_pos colon, beforeLastColon_append unbroken, dropWhile_of_not_mem noOpening,
    dropWhile_of_not_mem reversed, List.reverse_reverse]

/-- Brackets around the host are not part of the server's name. -/
theorem serverName_of_bracketed (noOpening : '[' ∉ host) (noClosing : ']' ∉ host)
    (unbroken : ':' ∉ port) : serverName ('[' :: (host ++ [']']) ++ ':' :: port) = host := by
  have colon : ('[' :: (host ++ [']']) ++ ':' :: port).contains ':' = true := by simp
  have reversed : ']' ∉ host.reverse := fun member => noClosing (List.mem_reverse.mp member)
  have opened : (host ++ [']']).dropWhile (· == '[') = host ++ [']'] :=
    dropWhile_of_not_mem (by simp [noOpening])
  rw [serverName, if_pos colon, beforeLastColon_append unbroken,
    List.dropWhile_cons_of_pos (by decide), opened, List.reverse_append,
    List.reverse_singleton, List.singleton_append, List.dropWhile_cons_of_pos (by decide),
    dropWhile_of_not_mem reversed, List.reverse_reverse]

end Servers

section Forms

/-- A host by its name or by four numbers: without colons and brackets. -/
structure IsHost (host : String) : Prop where
  nonempty : host ≠ ""
  noColon : ':' ∉ host.toList
  noOpening : '[' ∉ host.toList
  noClosing : ']' ∉ host.toList

/-- An address literal with colons, without the brackets that may be around it. -/
structure IsLiteral (literal : String) : Prop where
  colons : 2 ≤ literal.toList.count ':'
  noOpening : '[' ∉ literal.toList
  noClosing : ']' ∉ literal.toList

def IsPort (port : String) : Prop := ':' ∉ port.toList

/-- The forms of a declared address, each with the address that it stands for and the name of the
server there. -/
inductive Denotes : String → String → String → Prop where
  | host {host : String} (isHost : IsHost host) : Denotes host (host ++ ":57400") host
  | hostPort {host port : String} (isHost : IsHost host) (isPort : IsPort port) :
      Denotes (host ++ ":" ++ port) (host ++ ":" ++ port) host
  | bracketed {literal : String} (isLiteral : IsLiteral literal) :
      Denotes ("[" ++ literal ++ "]") ("[" ++ literal ++ "]:57400") literal
  | bracketedPort {literal port : String} (isLiteral : IsLiteral literal) (isPort : IsPort port) :
      Denotes ("[" ++ literal ++ "]:" ++ port) ("[" ++ literal ++ "]:" ++ port) literal
  | bare {literal : String} (isLiteral : IsLiteral literal) :
      Denotes literal ("[" ++ literal ++ "]:57400") literal

namespace Denotes

variable {declared address server : String}

theorem nonempty (denotes : Denotes declared address server) : declared ≠ "" := by
  cases denotes with
  | host isHost => exact isHost.nonempty
  | hostPort isHost _ => simp
  | bracketed _ => simp
  | bracketedPort _ _ => simp
  | bare isLiteral =>
      intro empty
      have colons := isLiteral.colons
      simp [empty] at colons

theorem withPort_eq (denotes : Denotes declared address server) :
    withPort declared.toList = address.toList := by
  cases denotes with
  | host isHost =>
      have bare : hasPort declared.toList = false := by
        rw [hasPort_of_host (head?_ne_of_not_mem isHost.noOpening),
          List.count_eq_zero.mpr isHost.noColon]
        rfl
      rw [withPort_of_not_hasPort bare, bracketed_of_plain (.inr isHost.noColon),
        String.toList_append]
  | @hostPort _ port isHost isPort =>
      have ported : hasPort (server.toList ++ ':' :: port.toList) = true := by
        rw [hasPort_of_host (head?_append_ne isHost.noOpening (by decide)), List.count_append,
          List.count_cons_self, List.count_eq_zero.mpr isHost.noColon,
          List.count_eq_zero.mpr isPort]
        rfl
      have whole : (server ++ ":" ++ port).toList = server.toList ++ ':' :: port.toList := by simp
      rw [whole, withPort_of_hasPort ported]
  | bracketed isLiteral =>
      have whole : ("[" ++ server ++ "]").toList = '[' :: (server.toList ++ [']']) := by simp
      have bare : hasPort ('[' :: (server.toList ++ [']'])) = false := by
        rw [hasPort_of_bracket, hasBracketedPort_append isLiteral.noClosing]
        rfl
      rw [whole, withPort_of_not_hasPort bare, bracketed_of_plain (.inl rfl)]
      simp
  | @bracketedPort _ port isLiteral isPort =>
      have whole : ("[" ++ server ++ "]:" ++ port).toList =
          '[' :: (server.toList ++ ']' :: ':' :: port.toList) := by simp
      have ported : hasPort ('[' :: (server.toList ++ ']' :: ':' :: port.toList)) = true := by
        rw [hasPort_of_bracket, hasBracketedPort_append isLiteral.noClosing]
        rfl
      rw [whole, withPort_of_hasPort ported]
  | bare isLiteral =>
      have unbracketed := head?_ne_of_not_mem isLiteral.noOpening
      have colons := isLiteral.colons
      have bare : hasPort declared.toList = false := by
        rw [hasPort_of_host unbracketed, beq_eq_false_iff_ne]
        omega
      have colon : ':' ∈ declared.toList := List.count_pos_iff.mp (by omega)
      rw [withPort_of_not_hasPort bare, bracketed_of_colon unbracketed colon]
      simp

theorem serverName_eq (denotes : Denotes declared address server) :
    serverName address.toList = server.toList := by
  have defaultUnbroken : ':' ∉ "57400".toList := by decide
  cases denotes with
  | host isHost =>
      rw [String.toList_append]
      exact serverName_of_host isHost.noOpening isHost.noClosing defaultUnbroken
  | hostPort isHost isPort =>
      have named := serverName_of_host isHost.noOpening isHost.noClosing isPort
      simpa using named
  | bracketed isLiteral =>
      have named :=
        serverName_of_bracketed isLiteral.noOpening isLiteral.noClosing defaultUnbroken
      simpa using named
  | bracketedPort isLiteral isPort =>
      have named := serverName_of_bracketed isLiteral.noOpening isLiteral.noClosing isPort
      simpa using named
  | bare isLiteral =>
      have named :=
        serverName_of_bracketed isLiteral.noOpening isLiteral.noClosing defaultUnbroken
      simpa using named

end Denotes

theorem toList_resolvedAddress (key declared : String) :
    (resolvedAddress key declared).toList =
      withPort (if declared = "" then key else declared).toList := by
  rw [resolvedAddress, String.toList_ofList]

/-- A secure connection takes authorities that can be used and a name that can be proven. -/
theorem Link.secure_ok_iff {files : Files.Tree} {target : Target} :
    secure files target = .ok () ↔ ∃ bytes, authorities files target = .ok bytes ∧
      Trust.Certificate.areAuthorities bytes = true ∧
        Net.isServerName (String.ofList (serverName target.address.toList)) = true := by
  unfold secure
  cases read : authorities files target with
  | error reason => simp
  | ok bytes =>
      simp only [Except.ok.injEq, exists_eq_left', Bool.and_eq_true]
      split
      · rename_i both
        simp [both]
      · rename_i notBoth
        simp [notBoth]

namespace Target

/-- A target of an address that has one of the forms resolves to the address that this stands for,
under any key, and the server there is asked for the name that goes with it. An empty address stands
for the key. -/
theorem address_forms_agree (target : Target) (key : String) (settings : Settings) :
    let resolved := target.resolve key settings
    (∀ address server, Denotes target.address address server →
      resolved.address = address ∧
        String.ofList (serverName resolved.address.toList) = server ∧
        ∀ files, Link.secure files resolved = .ok () ↔
          ∃ bytes, Link.authorities files resolved = .ok bytes ∧
            Trust.Certificate.areAuthorities bytes = true ∧ Net.isServerName server = true) ∧
    ({ target with address := "" } : Target).resolve key settings =
      ({ target with address := key } : Target).resolve key settings := by
  intro resolved
  refine ⟨?_, ?_⟩
  · intro address server denotes
    have isAddress : resolved.address = address := by
      apply String.toList_inj.mp
      change (resolvedAddress key target.address).toList = address.toList
      rw [toList_resolvedAddress, if_neg denotes.nonempty, denotes.withPort_eq]
    have isServer : String.ofList (serverName resolved.address.toList) = server := by
      rw [isAddress, denotes.serverName_eq, String.ofList_toList]
    refine ⟨isAddress, isServer, ?_⟩
    intro files
    rw [Link.secure_ok_iff, isServer]
  · simp [resolve, resolvedAddress]

/-- An address literal that is declared without brackets. -/
theorem bare_literal_bracketed :
    let resolved := (ofAddress "r1" "2001:db8::7").resolve "r1" Settings.default
    Denotes "2001:db8::7" "[2001:db8::7]:57400" "2001:db8::7" ∧
      resolved.address = "[2001:db8::7]:57400" ∧
      String.ofList (serverName resolved.address.toList) = "2001:db8::7" := by
  have denotes : Denotes "2001:db8::7" "[2001:db8::7]:57400" "2001:db8::7" :=
    .bare ⟨by decide, by decide, by decide⟩
  obtain ⟨isAddress, isServer, _⟩ :=
    (address_forms_agree (ofAddress "r1" "2001:db8::7") "r1" Settings.default).1 _ _ denotes
  exact ⟨denotes, isAddress, isServer⟩

end Target

end Forms

end Telemetry
