import Telemetry.Print.Pipeline
import Telemetry.Turns

/-!
Several producers that print at the same time. Each print holds the lock from its label to its last
piece, so what it writes stays together.
-/

namespace Telemetry.Printing

/-- Lets every producer print its messages in order, in no more than the given number of rounds:
the results with the producers they belong to, in the order in which they ended. -/
def together (roundLimit : Nat) (formatter : Formatter) (faults : SinkFaults)
    (settings : PrintSettings) (producers : List (List PrintCall)) (printing : Printing) :
    List (Nat × Print.Result) × Printing :=
  let turns : Turns PrintQuestion.Answer Print.Result Printing :=
    Turns.start printing (producers.map fun calls => calls.map (Print.program settings))
  let ended := turns.rounds (handler formatter faults) roundLimit
  (ended.finished, ended.state)

end Telemetry.Printing
