import Telemetry.Decimal.Reading
import Telemetry.Layer.Node

/-!
Key paths. The keys at the top of a layer may spell a path: names joined by points, with indices in
brackets. A key that spells none is one plain name.
-/

namespace Telemetry.Layer

inductive PathStep where
  | name (key : String)
  | index (position : Int)
deriving DecidableEq, Repr

/-- Why a key spells no path. -/
inductive PathFlaw where
  /-- It does not start with a name. -/
  | noName
  /-- Another character was needed. -/
  | character
  /-- A digit was needed in an index. -/
  | digit
  /-- An index is out of range. -/
  | range
deriving DecidableEq, Repr

def PathFlaw.label : PathFlaw → String
  | .noName => "IsA"
  | .character => "Char"
  | .digit => "Digit"
  | .range => "MapRes"

namespace KeyPath

def isNameChar (c : Char) : Bool := c.isAlphanum || c == '_' || c == '-' || c == ' '

def isSpace (c : Char) : Bool := c == ' ' || c == '\t' || c == '\r' || c == '\n'

/-- Reads an index after its opening bracket. -/
def index (text : List Char) : Except PathFlaw (Int × List Char) :=
  let text := text.dropWhile isSpace
  let (negative, body) :=
    match text with
    | '-' :: rest => (true, rest)
    | _ => (false, text)
  let digits := body.takeWhile Char.isDigit
  let rest := (body.drop digits.length).dropWhile isSpace
  if digits.isEmpty then .error .digit
  else
    let value : Int := Decimal.digitsValue digits
    let value := if negative then -value else value
    if value < -(Decimal.signedBound : Int) ∨ (Decimal.signedBound : Int) ≤ value then .error .range
    else
      match rest with
      | ']' :: rest => .ok (value, rest)
      | _ => .error .character

/-- Reads the steps after the first name. No more steps are taken than allowed, which is enough
when it is the length of the text. -/
def steps : Nat → List Char → Except PathFlaw (List PathStep)
  | 0, _ => .ok []
  | _ + 1, [] => .ok []
  | allowed + 1, '.' :: rest =>
      let name := rest.takeWhile isNameChar
      if name.isEmpty then .error .character
      else (steps allowed (rest.drop name.length)).map (.name (String.ofList name) :: ·)
  | allowed + 1, '[' :: rest =>
      match index rest with
      | .error flaw => .error flaw
      | .ok (position, rest) => (steps allowed rest).map (.index position :: ·)
  | _ + 1, _ => .error .character

/-- The path that a key spells. -/
def parse (key : String) : Except PathFlaw (List PathStep) :=
  let text := key.toList
  let name := text.takeWhile isNameChar
  if name.isEmpty then .error .noName
  else (steps text.length (text.drop name.length)).map (.name (String.ofList name) :: ·)

/-- The path that a key stands for: what it spells, or the key as one plain name. -/
def ofKey (key : String) : List PathStep :=
  match parse key with
  | .ok path => path
  | .error _ => [.name key]

end KeyPath

/-- The position in a list that an index means, and how many empty places are put in front of the
list to make it exist; a negative index counts from the end. -/
def position (index : Int) (length : Nat) : Nat × Nat :=
  if 0 ≤ index then (index.toNat, 0)
  else if (-index).toNat ≤ length then (length - (-index).toNat, 0)
  else (0, (-index).toNat - length)

/-- Puts a value at an index, changing what is there; missing places are filled with nothing. -/
def putAt (index : Int) (change : Node → Node) (items : List Node) : List Node :=
  let (place, inFront) := position index items.length
  let items := List.replicate inFront Node.nil ++ items
  let items := items ++ List.replicate (place + 1 - items.length) Node.nil
  items.set place (change (items[place]?.getD Node.nil))

/-- Puts a tree at the end of a path. A name leads through a table, an index through a list;
whatever else is in the way is replaced. -/
def setAt : List PathStep → Node → Option Node → Node
  | [], incoming, existing => merge incoming existing
  | .name key :: path, incoming, existing =>
      let key := Text.lowercase key
      let table :=
        match existing with
        | some (.table origin entries) => Node.table origin entries
        | _ => Node.emptyTable
      table.put key (setAt path incoming (table.child? key))
  | [.index index], incoming, existing =>
      match existing with
      | some (.list origin items) => .list origin (putAt index (fun _ => incoming) items)
      | _ => .list none (putAt index (fun _ => incoming) [])
  | .index index :: path, incoming, existing =>
      match existing with
      | some (.list origin items) =>
          .list origin (putAt index (fun item => setAt path incoming (some item)) items)
      | _ => .list none (putAt index (fun item => setAt path incoming (some item)) [])

/-- Keys with trees, one of the sources of configuration. -/
abbrev Entries := List (String × Node)

/-- Puts a layer on top of a tree, key by key. -/
def overlay (tree : Node) (layer : Entries) : Node :=
  layer.foldl (fun tree entry => setAt (KeyPath.ofKey entry.1) entry.2 (some tree)) tree

/-- The tree of several layers, the last one on top. -/
def gather (layers : List Entries) : Node := layers.foldl overlay Node.emptyTable

end Telemetry.Layer
