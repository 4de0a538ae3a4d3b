import Telemetry.Toml.Definition
import Telemetry.Toml.Lexical

/-!
Documents: values, the statements on the lines of a document, and the table they add up to. Reading
says whether a text is a document, not what is wrong with it.
-/

namespace Telemetry.Toml

def word (letters : String) (value : α) : Reader α := fun text =>
  if letters.toList.isPrefixOf text then some (value, text.drop letters.length) else none

/-- A value that holds no others. -/
def scalar (text : List Char) : Option (Value × List Char) :=
  match text with
  | [] => none
  | c :: _ =>
      if c = '"' ∨ c = '\'' then (string text).map (fun (value, rest) => (.string value, rest))
      else if c = 't' then word "true" (.bool true) text
      else if c = 'f' then word "false" (.bool false) text
      else if c = '+' ∨ c = '-' ∨ c.isDigit then
        match dateTime text with
        | some (value, rest) => some (.dateTime value, rest)
        | none =>
            match double text with
            | some (value, rest) => some (.double value, rest)
            | none => (integer text).map (fun (value, rest) => (.integer value, rest))
      else if c = 'i' ∨ c = 'n' then
        (specialDouble text).map (fun (value, rest) => (.double value, rest))
      else none

/-- The elements of an array up to its end, given how one element is read. -/
def elements (element : Reader Value) : Nat → Reader (List Value)
  | 0, _ => none
  | allowed + 1, text => do
      match ← skipSpace text.length text with
      | ']' :: rest => return ([], rest)
      | text =>
          let (value, rest) ← element text
          match ← skipSpace rest.length rest with
          | ']' :: rest => return ([value], rest)
          | ',' :: rest => do
              let (values, rest) ← elements element allowed rest
              return (value :: values, rest)
          | _ => none

/-- The assignments of an inline table after its opening brace, given how one value is read. -/
def assignments (element : Reader Value) : Nat → Reader (List (List String × Value))
  | 0, _ => none
  | allowed + 1, text => do
      let (names, rest) ← key text
      let (_, rest) ← character '=' rest
      let (value, rest) ← element (skipBlanks rest)
      match skipBlanks rest with
      | '\x7d' :: rest => return ([(names, value)], rest)
      | ',' :: rest => do
          let (more, rest) ← assignments element allowed rest
          return ((names, value) :: more, rest)
      | _ => none

/-- The table that assignments add up to. -/
def inlineTable (pairs : List (List String × Value)) : Option Value :=
  (pairs.foldlM (fun draft pair => Draft.assign pair.1 pair.2 draft) (⟨.opened, []⟩ : Draft)).map
    fun draft => .table (finishEntries draft.entries)

/-- A value with containers nested no deeper than the given depth. -/
def value (depth : Nat) (text : List Char) : Option (Value × List Char) :=
  match depth, text with
  | 0, '[' :: _ => none
  | 0, '\x7b' :: _ => none
  | depth + 1, '[' :: rest =>
      (elements (value depth) (rest.length + 1) rest).map
        (fun (items, rest) => (.array items, rest))
  | depth + 1, '\x7b' :: rest =>
      match skipBlanks rest with
      | '\x7d' :: rest => some (.table [], rest)
      | rest => do
          let (pairs, rest) ← assignments (value depth) (rest.length + 1) rest
          let table ← inlineTable pairs
          return (table, rest)
  | _, text => scalar text
termination_by structural depth

inductive Statement where
  | openTable (key : List String)
  | openElement (key : List String)
  | assign (key : List String) (value : Value)

/-- The statement that starts a line, and what follows it on the line. -/
def statement (text : List Char) : Option (Statement × List Char) :=
  match text with
  | '[' :: '[' :: rest => do
      let (names, rest) ← key rest
      let (_, rest) ← character ']' rest
      let (_, rest) ← character ']' rest
      return (.openElement names, rest)
  | '[' :: rest => do
      let (names, rest) ← key rest
      let (_, rest) ← character ']' rest
      return (.openTable names, rest)
  | text => do
      let (names, rest) ← key text
      let (_, rest) ← character '=' rest
      let (value, rest) ← value longestKey (skipBlanks rest)
      return (.assign names value, rest)

/-- The statements on the lines of a text. -/
def statements : Nat → List Char → Option (List Statement)
  | 0, _ => none
  | allowed + 1, text =>
      match skipBlanks text with
      | [] => some []
      | '#' :: rest => (lineEnd? ('#' :: rest)).bind (statements allowed)
      | '\n' :: rest => statements allowed rest
      | '\r' :: rest => (newline? ('\r' :: rest)).bind (statements allowed)
      | text => do
          let (first, rest) ← statement text
          let rest ← lineEnd? rest
          let more ← statements allowed rest
          return first :: more

/-- A document under construction: its table, and the key of the header that is in force. -/
structure Construction where
  root : Draft
  header : List String

def Construction.apply (construction : Construction) : Statement → Option Construction
  | .openTable names => do
      let name ← names.getLast?
      let root ← construction.root.change false (Draft.openTable name) names.dropLast
      return ⟨root, names⟩
  | .openElement names => do
      let name ← names.getLast?
      let root ← construction.root.change false (Draft.openElement name) names.dropLast
      return ⟨root, names⟩
  | .assign names value => do
      let root ← construction.root.change false (Draft.assign names value) construction.header
      return { construction with root := root }

/-- The entries of the table that a text spells. -/
def parse (text : List Char) : Option (List (String × Value)) := do
  let lines ← statements (text.length + 1) text
  let construction ← lines.foldlM Construction.apply ⟨⟨.opened, []⟩, []⟩
  return finishEntries construction.root.entries

end Telemetry.Toml
