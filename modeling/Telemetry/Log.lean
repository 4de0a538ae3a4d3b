/-!
Log entries: a level, the part of the collector that speaks, and what it says.
-/

namespace Telemetry

inductive LogLevel where
  | debug
  | info
  | warn
  | error
deriving DecidableEq, Repr

def LogLevel.label : LogLevel → String
  | .debug => "DEBUG"
  | .info => "INFO"
  | .warn => "WARN"
  | .error => "ERROR"

/-- The place of a level, the gravest first. Nothing stands at zero. -/
def LogLevel.rank : LogLevel → Nat
  | .error => 1
  | .warn => 2
  | .info => 3
  | .debug => 4

/-- The parts of the collector that write to the log. -/
inductive LogPart where
  | program
  | service
  | reconciler
  | registry
  | watcher
  | admin
  | files
deriving DecidableEq, Repr

/-- The name a part signs its entries with. -/
def LogPart.label : LogPart → String
  | .program => "telemetry_collector"
  | .service => "telemetry_collector::app::app"
  | .reconciler => "telemetry_collector::reconcile::reconciler"
  | .registry => "telemetry_collector::targets::manager"
  | .watcher => "telemetry_collector::watch::watcher"
  | .admin => "telemetry_collector::admin"
  | .files => "telemetry_collector::utils::file_io"

structure LogEntry where
  level : LogLevel
  part : LogPart
  text : String
deriving DecidableEq, Repr

def LogEntry.line (entry : LogEntry) : String :=
  entry.level.label ++ " " ++ entry.part.label ++ ": " ++ entry.text

end Telemetry
