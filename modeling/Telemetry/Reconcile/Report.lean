import Telemetry.Json.Value

/-!
Reports: what one pass over the registry did, name by name.
-/

namespace Telemetry

structure Report where
  added : List String
  deleted : List String
  failedAdds : List String
  failedDeletes : List String
deriving DecidableEq, Repr

namespace Report

def empty : Report := ⟨[], [], [], []⟩

/-- Whether nothing was attempted. -/
def isNoop (report : Report) : Bool :=
  report.added.isEmpty && report.deleted.isEmpty && report.failedAdds.isEmpty &&
    report.failedDeletes.isEmpty

def deletion (report : Report) (name : String) (success : Bool) : Report :=
  if success then { report with deleted := report.deleted ++ [name] }
  else { report with failedDeletes := report.failedDeletes ++ [name] }

def addition (report : Report) (name : String) (success : Bool) : Report :=
  if success then { report with added := report.added ++ [name] }
  else { report with failedAdds := report.failedAdds ++ [name] }

/-- The number of failed steps. -/
def failures (report : Report) : Nat := report.failedAdds.length + report.failedDeletes.length

def toJson (report : Report) : Json :=
  .object [
    ("added", Json.strings report.added),
    ("deleted", Json.strings report.deleted),
    ("failed_adds", Json.strings report.failedAdds),
    ("failed_deletes", Json.strings report.failedDeletes),
    ("noop", .bool report.isNoop)]

end Report

end Telemetry
