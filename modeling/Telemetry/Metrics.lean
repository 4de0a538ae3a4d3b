/-!
Metrics: how many operations on the registry went well or failed, how many messages could not be
rendered, and how many initialisations are in flight.
-/

namespace Telemetry

inductive Operation where
  | add
  | delete
  | init
deriving DecidableEq, Repr

def Operation.label : Operation → String
  | .add => "add"
  | .delete => "delete"
  | .init => "init"

/-- Successes and failures. -/
structure Tally where
  ok : Nat
  failed : Nat
deriving DecidableEq, Repr

structure Metrics where
  adds : Tally
  deletes : Tally
  inits : Tally
  printFailures : Nat
  pendingInits : Int
deriving DecidableEq, Repr

namespace Metrics

def zero : Metrics := ⟨⟨0, 0⟩, ⟨0, 0⟩, ⟨0, 0⟩, 0, 0⟩

def tally (metrics : Metrics) : Operation → Tally
  | .add => metrics.adds
  | .delete => metrics.deletes
  | .init => metrics.inits

def Tally.count (tally : Tally) (success : Bool) : Tally :=
  if success then { tally with ok := tally.ok + 1 } else { tally with failed := tally.failed + 1 }

/-- Counts one operation. -/
def record (metrics : Metrics) (operation : Operation) (success : Bool) : Metrics :=
  match operation with
  | .add => { metrics with adds := Tally.count metrics.adds success }
  | .delete => { metrics with deletes := Tally.count metrics.deletes success }
  | .init => { metrics with inits := Tally.count metrics.inits success }

/-- A guard of the gauge of initialisations is made, and holds one unit until it is dropped. -/
def takeGuard (metrics : Metrics) : Metrics :=
  { metrics with pendingInits := metrics.pendingInits + 1 }

def dropGuard (metrics : Metrics) : Metrics :=
  { metrics with pendingInits := metrics.pendingInits - 1 }

/-- The head of a family of values: what it is about, and of which kind it is. -/
def familyHead (name help kind : String) : String :=
  "# HELP " ++ name ++ " " ++ help ++ "\n# TYPE " ++ name ++ " " ++ kind ++ "\n"

/-- The line of one kind of operation and result, if it ever occurred. -/
def operationLine (operation : Operation) (result : String) (count : Nat) : String :=
  if count = 0 then ""
  else
    "target_operations_total\x7bop=\"" ++ operation.label ++ "\",result=\"" ++ result ++
      "\"\x7d " ++ toString count ++ "\n"

/-- Lines in ascending order of operation and result. -/
def operationLines (metrics : Metrics) : String :=
  String.join ([Operation.add, .delete, .init].map fun operation =>
    operationLine operation "error" (metrics.tally operation).failed ++
      operationLine operation "ok" (metrics.tally operation).ok)

/-- The exposition text: families in ascending order of their names, the operations only once one
occurred. -/
def exposition (metrics : Metrics) : String :=
  let operations := metrics.operationLines
  familyHead "pending_target_inits" "Target initializations still in flight" "gauge" ++
    "pending_target_inits " ++ toString metrics.pendingInits ++ "\n" ++
    familyHead "print_failures_total" "Messages that could not be rendered" "counter" ++
    "print_failures_total " ++ toString metrics.printFailures ++ "\n" ++
    (if operations = "" then ""
     else
       familyHead "target_operations_total" "Target registry operations by kind and result"
         "counter" ++ operations)

end Metrics

end Telemetry
