import Telemetry.Decimal.Double
import Telemetry.NameMap
import Telemetry.Text.LetterCase

/-!
Trees of settings. Configuration is gathered in layers, each a list of keys with trees; a layer put
on top of a tree merges tables key by key and replaces everything else. Keys are lower-cased when
they are stored.
-/

namespace Telemetry.Layer

open Decimal

inductive Scalar where
  | nil
  | bool (value : Bool)
  | integer (value : Int)
  | double (value : Double)
  | text (value : String)
deriving DecidableEq, Repr

/-- A tree of settings. Each value remembers where it came from, if it came from anywhere. -/
inductive Node where
  | leaf (origin : Option String) (value : Scalar)
  | list (origin : Option String) (items : List Node)
  | table (origin : Option String) (entries : List (String × Node))
deriving Repr

namespace Node

def nil : Node := .leaf none .nil

def emptyTable : Node := .table none []

instance : Inhabited Node := ⟨nil⟩

/-- The value under a key, if the tree is a table. -/
def child? (node : Node) (key : String) : Option Node :=
  match node with
  | .table _ entries => findEntry key entries
  | _ => none

/-- Puts a value under a key; what is no table becomes one of no origin. -/
def put (node : Node) (key : String) (value : Node) : Node :=
  match node with
  | .table origin entries => .table origin (insertEntry key value entries)
  | _ => .table none [(key, value)]

end Node

open Text in
mutual

/-- What stands in a place once a tree has been put on top of what was there. -/
def merge (incoming : Node) (existing : Option Node) : Node :=
  match incoming with
  | .table _ entries => mergeEntries entries (existing.getD Node.emptyTable)
  | .leaf origin value => .leaf origin value
  | .list origin items => .list origin items

/-- Puts entries on top of a tree, one after the other. -/
def mergeEntries (entries : List (String × Node)) (target : Node) : Node :=
  match entries with
  | [] => target
  | (key, value) :: rest =>
      let key := lowercase key
      mergeEntries rest (target.put key (merge value (target.child? key)))

end

end Telemetry.Layer
