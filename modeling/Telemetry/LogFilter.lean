import Telemetry.Log

/-!
What of the log is written. A filter decides by the level of an entry and the part that speaks; it
is read from directives such as `info,telemetry_collector::admin=debug`.
-/

namespace Telemetry

abbrev LogFilter := LogLevel → LogPart → Bool

/-- How filters are read: what is let through by directives, and by a level if there are none. -/
abbrev FilterReading := String → LogLevel → LogFilter

/-- A directive: how far the parts are heard whose names begin with its scope. -/
structure LogDirective where
  scope : String
  rank : Nat
deriving DecidableEq, Repr

namespace LogDirective

/-- The ranks by their names, that of everything last. -/
def rankNames : List String := ["off", "error", "warn", "info", "debug", "trace"]

def everything : Nat := rankNames.length - 1

/-- A rank by its name or its number. -/
def rank? (text : String) : Option Nat :=
  (rankNames.findIdx? (· == text.toLower)) <|>
    (List.range rankNames.length).find? fun rank => toString rank == text

/-- What stands before and after the last equals sign outside of brackets. -/
def cut (text : String) : String × Option String :=
  let after := (text.toList.reverse.takeWhile fun c => c != '=' && c != ']').reverse
  let before := text.toList.take (text.length - after.length)
  if before.getLast? = some '=' then (String.ofList before.dropLast, some (String.ofList after))
  else (text, none)

/-- A scope is the beginning of a name, a span in brackets, or both. -/
def isScope (text : String) : Bool :=
  let span := text.toList.dropWhile fun c => c.isAlphanum || c == '_' || c == ':' || c == '-'
  text != "" && (span.isEmpty || (span.head? == some '[' && span.getLast? == some ']'))

/-- Reads one directive. No part has a bracket in its name and none speaks in a span, so directives
about spans are there without letting anything through. -/
def read? (text : String) : Option LogDirective :=
  match rank? text with
  | some rank => some ⟨"", rank⟩
  | none =>
      let (scope, level) := cut text
      let rank := match level with
        | none | some "" => some everything
        | some level => rank? level
      if isScope scope then
        rank.map (⟨if (rank? scope).isSome then "" else scope, ·⟩)
      else none

/-- The directive that decides for a part: of those about it the one with the longest scope, and of
several such the last. -/
def nearest? (part : LogPart) (directives : List LogDirective) : Option LogDirective :=
  directives.foldl (fun best directive =>
    if part.label.startsWith directive.scope &&
        best.all (fun found => found.scope.length ≤ directive.scope.length)
    then some directive else best) none

end LogDirective

/-- Reads a filter. What is no directive is passed over. -/
def LogFilter.read : FilterReading := fun text level =>
  let directives := (text.splitOn ",").filterMap LogDirective.read?
  let directives := if directives.isEmpty then [⟨"", level.rank⟩] else directives
  fun level part =>
    (LogDirective.nearest? part directives).any fun directive => level.rank ≤ directive.rank

end Telemetry
