/-!
A tracker of tasks. It gives every task that it is told of a token, which comes back when the task
is dropped, and says of a closed tracker whether all tokens are back.
-/

namespace Telemetry

structure Tracker where
  /-- How many tokens are out. -/
  tokens : Nat
  closed : Bool
deriving DecidableEq, Repr

namespace Tracker

def start : Tracker := ⟨0, false⟩

/-- Gives out a token, also when the tracker is closed. -/
def give (tracker : Tracker) : Tracker := { tracker with tokens := tracker.tokens + 1 }

def takeBack (tracker : Tracker) : Tracker := { tracker with tokens := tracker.tokens - 1 }

def close (tracker : Tracker) : Tracker := { tracker with closed := true }

/-- Whether those who wait for the tracker may go on. -/
def isOver (tracker : Tracker) : Bool := tracker.closed && tracker.tokens == 0

end Tracker

end Telemetry
