import Telemetry.Net.SocketAddress

/-!
Names by which a server proves who it is: an address literal, or a name of the domain name system.
-/

namespace Telemetry.Net

/-- The pieces of a text between points. -/
def splitPoints : List Char → List (List Char)
  | [] => [[]]
  | c :: rest =>
      if c = '.' then [] :: splitPoints rest
      else
        match splitPoints rest with
        | [] => [[c]]
        | label :: more => (c :: label) :: more

def isLabelChar (c : Char) : Bool := c.isAlphanum || c == '_' || c == '-'

def isLabel (label : List Char) : Bool :=
  !label.isEmpty && label.length ≤ 63 && label.all isLabelChar && label.head? != some '-' &&
    label.getLast? != some '-'

/-- Labels between points, possibly one point at the end; the last label is not a number. -/
def isDomainName (text : String) : Bool :=
  let characters := text.toList
  let body := if characters.getLast? == some '.' then characters.dropLast else characters
  let labels := splitPoints body
  text.utf8ByteSize ≤ 253 && labels.all isLabel &&
    !(labels.getLast?.any (fun label => label.all Char.isDigit))

def isServerName (text : String) : Bool := (Ip.parse? text).isSome || isDomainName text

end Telemetry.Net
