import Telemetry.Declaration.Basic
import Telemetry.Message.Layout
import Telemetry.Program
import Telemetry.Render.Formatter
import Telemetry.Text.Lines

/-!
Printing of messages. One print writes the label of the message to one sink, its text to another,
and says so on a third when it cannot be rendered. A print is a program that writes piece by piece;
the first refused write ends it.
-/

namespace Telemetry

/-- The part of the settings that printing depends on. -/
structure PrintSettings where
  format : String
  noLabels : Bool
  /-- Whether failures are logged; if not, they are echoed among the messages. -/
  loggingEnabled : Bool
deriving DecidableEq, Repr

def PrintSettings.ofSettings (settings : Settings) : PrintSettings :=
  ⟨settings.format, settings.noLabels, settings.loggingEnabled⟩

def PrintSettings.toJson (settings : PrintSettings) : Json :=
  .object [
    ("format", .string settings.format),
    ("log_enabled", .bool settings.loggingEnabled),
    ("no_prefix", .bool settings.noLabels)]

inductive Sink where
  /-- Rendered messages. -/
  | out
  /-- Labels of messages. -/
  | header
  /-- Failures, when they are not logged. -/
  | echo
deriving DecidableEq, Repr

/-- One message to be printed, from a source and under a label. -/
structure PrintCall where
  source : String
  label : String
  message : Message

/-- What a print asks of its surroundings. -/
inductive PrintQuestion where
  | write (sink : Sink) (text : List Char)
  | flush
  /-- The number of declared targets. -/
  | declaredCount
  /-- The formatter's rendering of a message. -/
  | render (message : Message) (options : RenderOptions) (metadata : NameMap String)
  /-- Count one failed print. -/
  | recordFailure

def PrintQuestion.Answer : PrintQuestion → Type
  | .write _ _ => Except Fault Unit
  | .flush => Except Fault Unit
  | .declaredCount => Nat
  | .render _ _ _ => Except Error Rendering
  | .recordFailure => Unit

abbrev PrintProgram := Program PrintQuestion.Answer

namespace Print

abbrev Result := Except Error Unit

def failed (fault : Fault) : Result := .error (.system (.io fault))

/-- Writes pieces to a sink, then goes on; a refused write ends the print. For an empty piece
nothing is written, so it cannot be refused. -/
def writing (sink : Sink) : List (List Char) → PrintProgram Result → PrintProgram Result
  | [], next => next
  | piece :: pieces, next =>
      if piece.isEmpty then writing sink pieces next
      else
        .ask (.write sink piece) fun
          | .ok () => writing sink pieces next
          | .error fault => .done (failed fault)

/-- Sees that what was written is passed on, which ends the print. -/
def flushed : PrintProgram Result :=
  .ask .flush fun
    | .ok () => .done (.ok ())
    | .error fault => .done (failed fault)

/-- The label that stands before every line of a source. -/
def sourceLabel (source : String) : List Char := '[' :: (source.toList ++ [']', ' '])

/-- Lines are labelled when several targets are declared, unless labels are off. -/
def lineLabel (settings : PrintSettings) (declared : Nat) (source : String) : List Char :=
  if 1 < declared && !settings.noLabels then sourceLabel source else []

/-- Whether a message is printed in a layout of its own: only when no format is configured. -/
def usesLayout (settings : PrintSettings) (message : Message) : Bool :=
  settings.format == "" && message.hasLayout

def indent : List Char := [' ', ' ']

def options (settings : PrintSettings) : RenderOptions := ⟨true, indent, settings.format⟩

def sourceKey : String := "source"

def metadata (source : String) : NameMap String := NameMap.empty.insert sourceKey source

/-- The pieces of the label of a message. -/
def headerPieces (label : String) : List (List Char) := [label.toList, ['\n']]

/-- The pieces of the record of a failure. -/
def echoPieces (label : String) (reason : Error) : List (List Char) :=
  ["error marshaling ".toList, label.toList, ": ".toList, reason.message.toList, ['\n']]

/-- What is printed once the label of the lines is settled. -/
def body (settings : PrintSettings) (call : PrintCall) (label : List Char) :
    PrintProgram Result :=
  let formatted : PrintProgram Result :=
    .ask (.render call.message (options settings) (metadata call.source)) fun
      | .ok rendering =>
          writing .out [Text.labelLines label rendering.characters, ['\n']] flushed
      | .error reason =>
          if settings.loggingEnabled then .done (.error reason)
          else writing .echo (echoPieces call.label reason) (.done (.error reason))
  match call.message with
  | .capabilities content =>
      if usesLayout settings call.message then writing .out [content.layout label] flushed
      else formatted
  | _ => formatted

/-- The writing of one print. -/
def attempt (settings : PrintSettings) (call : PrintCall) : PrintProgram Result :=
  writing .header (headerPieces call.label)
    (.ask .declaredCount fun declared =>
      body settings call (lineLabel settings declared call.source))

/-- Counts a failed print and ends it. -/
def settled (result : Result) : PrintProgram Result :=
  match result with
  | .ok () => .done result
  | .error _ => .ask .recordFailure fun _ => .done result

/-- One print. -/
def program (settings : PrintSettings) (call : PrintCall) : PrintProgram Result :=
  (attempt settings call).bind settled

end Print

/-- What has been written to the sinks, and how often they were written to. -/
structure Sinks where
  out : List Char
  header : List Char
  echo : List Char
  writes : Nat
deriving DecidableEq, Repr

namespace Sinks

def empty : Sinks := ⟨[], [], [], 0⟩

def content (sinks : Sinks) : Sink → List Char
  | .out => sinks.out
  | .header => sinks.header
  | .echo => sinks.echo

def append (sinks : Sinks) (sink : Sink) (text : List Char) : Sinks :=
  match sink with
  | .out => { sinks with out := sinks.out ++ text, writes := sinks.writes + 1 }
  | .header => { sinks with header := sinks.header ++ text, writes := sinks.writes + 1 }
  | .echo => { sinks with echo := sinks.echo ++ text, writes := sinks.writes + 1 }

end Sinks

/-- Which writes are refused, by the sink and the number of writes before, and which flushes. -/
structure SinkFaults where
  onWrite : Sink → Nat → Option Fault
  onFlush : Nat → Option Fault

def SinkFaults.none : SinkFaults := ⟨fun _ _ => Option.none, fun _ => Option.none⟩

/-- The surroundings of prints. -/
structure Printing where
  sinks : Sinks
  declared : Nat
  /-- How often the formatter has been asked. -/
  consulted : Nat
  /-- How many prints have failed. -/
  failures : Nat

namespace Printing

def start (declared : Nat) : Printing := ⟨Sinks.empty, declared, 0, 0⟩

/-- Answers what a print asks. A refused write leaves the sink as it is. -/
def handlerWith (renderer : Renderer) (faults : SinkFaults) :
    Program.Handler PrintQuestion.Answer Printing
  | .write sink text, printing =>
      match faults.onWrite sink printing.sinks.writes with
      | none => (.ok (), { printing with sinks := printing.sinks.append sink text })
      | some fault =>
          (.error fault,
            { printing with sinks := { printing.sinks with writes := printing.sinks.writes + 1 } })
  | .flush, printing =>
      match faults.onFlush printing.sinks.writes with
      | none => (.ok (), printing)
      | some fault => (.error fault, printing)
  | .declaredCount, printing => (printing.declared, printing)
  | .render message options metadata, printing =>
      (renderer message options metadata, { printing with consulted := printing.consulted + 1 })
  | .recordFailure, printing => ((), { printing with failures := printing.failures + 1 })

/-- Prints one message, with whatever renders it. -/
def printWith (renderer : Renderer) (faults : SinkFaults) (settings : PrintSettings)
    (call : PrintCall) (printing : Printing) : Print.Result × Printing :=
  (Print.program settings call).run (handlerWith renderer faults) printing

def handler (formatter : Formatter) (faults : SinkFaults) :
    Program.Handler PrintQuestion.Answer Printing :=
  handlerWith formatter.renderer faults

/-- Prints one message. -/
def print (formatter : Formatter) (faults : SinkFaults) (settings : PrintSettings)
    (call : PrintCall) (printing : Printing) : Print.Result × Printing :=
  printing.printWith formatter.renderer faults settings call

end Printing

end Telemetry
