import Telemetry.Files.Path
import Telemetry.Json.Printer
import Telemetry.Metrics
import Telemetry.NameMap

/-!
What the admin endpoint answers: the names of the live targets, a sign of life, and the metrics.
-/

namespace Telemetry.Admin

inductive Route where
  | targets
  | health
  | metrics
deriving DecidableEq, Repr

structure Response where
  status : Nat
  contentType : Option String
  body : String
deriving DecidableEq, Repr

def Response.toJson (response : Response) : Json :=
  .object [
    ("body", .string response.body),
    ("content_type", Json.ofOption .string response.contentType),
    ("status", Json.nat response.status)]

def plainText : String := "text/plain; charset=utf-8"

def jsonText : String := "application/json"

/-- The path of a request's target, without query and fragment. -/
def pathOf (target : String) : String :=
  String.ofList (target.toList.takeWhile (fun c => c != '?' && c != '#'))

/-- The route of a path. One slash at the end says nothing. -/
def Route.ofPath? (path : String) : Option Route :=
  match (Files.splitSlashes path.toList).map String.ofList with
  | ["", "api", "v1", "targets"] => some .targets
  | ["", "api", "v1", "targets", ""] => some .targets
  | ["", "api", "v1", "healthz"] => some .health
  | ["", "api", "v1", "healthz", ""] => some .health
  | ["", "metrics"] => some .metrics
  | ["", "metrics", ""] => some .metrics
  | _ => none

/-- The live names as a JSON list, ascending. -/
def targetsBody (names : List String) : String := (Json.strings (sortedNames names)).compact

def notFound : Response := ⟨404, none, ""⟩

def methodNotAllowed : Response := ⟨405, some plainText, "HTTP method not allowed"⟩

def Route.answer (route : Route) (names : List String) (metrics : Metrics) : Response :=
  match route with
  | .targets => ⟨200, some jsonText, targetsBody names⟩
  | .health => ⟨200, some plainText, "ok"⟩
  | .metrics => ⟨200, some plainText, metrics.exposition⟩

/-- The answer to a request, given the live names in any order. Everything is for getting only. -/
def respond (names : List String) (metrics : Metrics) (method target : String) : Response :=
  match Route.ofPath? (pathOf target) with
  | none => notFound
  | some route => if method = "GET" then route.answer names metrics else methodNotAllowed

end Telemetry.Admin
