import Telemetry.Link.Connection

/-!
The registry of live targets. Every registration has a number of its own, so that a target that was
deleted and added again can be told from the one that was there before.
-/

namespace Telemetry

/-- How far a registered target has come. -/
inductive TargetState where
  /-- Registered, while its initialisation has not begun. -/
  | pending
  | connecting
  | connected
  | failed (reason : String)
  | cancelled
deriving DecidableEq, Repr

/-- A registered target. -/
structure Entry where
  target : Target
  state : TargetState
  channel : Option Channel
  generation : Nat
deriving DecidableEq, Repr

def Entry.start (target : Target) (generation : Nat) : Entry := ⟨target, .pending, none, generation⟩

/-- A channel and the limit that its users have to apply. -/
structure LimitedChannel where
  channel : Channel
  /-- Greatest size of a received message in bytes. -/
  maxReceive : Option UInt64
deriving DecidableEq, Repr

structure Registry where
  dialing : Dialing
  entries : NameMap Entry
  /-- The number of the next registration. -/
  nextGeneration : Nat

namespace Registry

def empty (dialing : Dialing) : Registry := ⟨dialing, NameMap.empty, 0⟩

/-- The names of the live targets, ascending. -/
def names (registry : Registry) : List String := registry.entries.names

def count (registry : Registry) : Nat := registry.entries.size

def state? (registry : Registry) (name : String) : Option TargetState :=
  (registry.entries.get? name).map Entry.state

/-- The channel of a connected target. -/
def channel? (registry : Registry) (name : String) : Option LimitedChannel :=
  ((registry.entries.get? name).bind Entry.channel).map fun channel =>
    ⟨channel, registry.dialing.maxReceive⟩

/-- Registers a target. Its address is looked at before its name. -/
def add (registry : Registry) (target : Target) : Except TargetError Registry :=
  match target.checkAddress with
  | .error reason => .error reason
  | .ok () =>
      if registry.entries.contains target.name then .error (.alreadyExists target.name)
      else
        .ok { registry with
          entries :=
            registry.entries.insert target.name (Entry.start target registry.nextGeneration)
          nextGeneration := registry.nextGeneration + 1 }

def delete (registry : Registry) (name : String) : Except TargetError Registry :=
  if registry.entries.contains name then
    .ok { registry with entries := registry.entries.erase name }
  else .error (.notFound name)

/-- Whether the registration of that number is the one under the name now. -/
def isCurrent (registry : Registry) (name : String) (generation : Nat) : Bool :=
  match registry.entries.get? name with
  | some entry => entry.generation == generation
  | none => false

/-- Changes an entry, but only while it is still the registration of that number. -/
def update (registry : Registry) (name : String) (generation : Nat) (change : Entry → Entry) :
    Registry :=
  match registry.entries.get? name with
  | some entry =>
      if entry.generation = generation then
        { registry with entries := registry.entries.insert name (change entry) }
      else registry
  | none => registry

end Registry

/-- What can be brought in line with a declaration: names that come and go. -/
class TargetRegistry (ρ : Type) (τ : outParam Type) where
  names : ρ → List String
  add : Target → ρ → Except Error Unit × ρ
  delete : String → ρ → Except Error Unit × ρ
  /-- An initialisation of the target of a name, not yet begun. -/
  spawn : String → τ

/-- The result of a step that may fail, beside the registry as it is then. -/
def Registry.afterwards (registry : Registry) (result : Except TargetError Registry) :
    Except Error Unit × Registry :=
  match result with
  | .ok registry => (.ok (), registry)
  | .error reason => (.error (.target reason), registry)

end Telemetry
