import Telemetry.Declaration.Basic
import Telemetry.Error
import Telemetry.Files.Tree
import Telemetry.Link.Dialing
import Telemetry.Net.Authority
import Telemetry.Net.ServerName
import Telemetry.Trust.Certificate

/-!
Connections to targets: whether an address can be dialled at all, what a secure connection needs,
and how an attempt to connect ends.
-/

namespace Telemetry

/-- A connection that has been set up, perhaps only to be made when it is first used. -/
structure Channel where
  address : String
  secure : Bool
deriving DecidableEq, Repr

/-- What is found behind an address. -/
inductive Peer where
  /-- Nothing has come back so far. -/
  | unreached
  /-- Nothing listens. -/
  | refusing
  /-- Something takes the connection and never speaks. -/
  | silent
  /-- A device. -/
  | answering
deriving DecidableEq, Repr

/-- What connections depend on beside the target. -/
structure Surroundings where
  files : Files.Tree
  peer : String → Peer

namespace Target

def scheme (target : Target) : String := if target.isInsecure then "http" else "https"

/-- Whether the target's address can be dialled. -/
def isDialable (target : Target) : Bool := Net.isLocator target.scheme target.address

/-- Refuses a target whose address cannot be dialled. -/
def checkAddress (target : Target) : Except TargetError Unit :=
  if target.isDialable then .ok () else .error (.invalidAddress target.name target.address)

end Target

/-- What stands before the last colon of an address, and the whole address when it has none. -/
def beforeLastColon (address : List Char) : List Char :=
  if address.contains ':' then
    ((address.reverse.dropWhile (· != ':')).drop 1).reverse
  else address

/-- The name by which the server at an address proves who it is: the host without its port and
brackets. -/
def serverName (address : List Char) : List Char :=
  if address.contains ':' then
    (((beforeLastColon address).dropWhile (· == '[')).reverse.dropWhile (· == ']')).reverse
  else address

namespace Link

/-- The authorities that a target names are read first; without them those known to the system are
asked. -/
def authorities (files : Files.Tree) (target : Target) : Except Error (List UInt8) :=
  match target.authorityFile with
  | none => .ok []
  | some path =>
      match Files.read files path with
      | .ok bytes => .ok bytes
      | .error fault => .error (.system (.io fault))

/-- Prepares a secure connection: authorities that can be used, and a name that can be proven. -/
def secure (files : Files.Tree) (target : Target) : Except Error Unit :=
  match authorities files target with
  | .error reason => .error reason
  | .ok bytes =>
      if Trust.Certificate.areAuthorities bytes &&
          Net.isServerName (String.ofList (serverName target.address.toList)) then .ok ()
      else .error (.target (.connect target.name))

def channel (target : Target) : Channel := ⟨target.address, !target.isInsecure⟩

/-- How an attempt ends once nothing but the peer matters; none while it does not end by itself. A
connection that need not be waited for is made when it is first used. -/
def reach (surroundings : Surroundings) (dialing : Dialing) (target : Target) :
    Option (Except Error Channel) :=
  if !dialing.block then some (.ok (channel target))
  else
    match surroundings.peer target.address with
    | .unreached => none
    | .refusing => some (.error (.target (.connect target.name)))
    | .answering => some (.ok (channel target))
    | .silent => if target.isInsecure then some (.ok (channel target)) else none

/-- How an attempt to connect ends; none while it does not end by itself. -/
def connect (surroundings : Surroundings) (dialing : Dialing) (target : Target) :
    Option (Except Error Channel) :=
  match target.checkAddress with
  | .error reason => some (.error (.target reason))
  | .ok () =>
      if target.isInsecure then reach surroundings dialing target
      else
        match secure surroundings.files target with
        | .error reason => some (.error reason)
        | .ok () => reach surroundings dialing target

/-- Whether an attempt has to wait for a file before anything can be known. -/
def readsFile (target : Target) : Bool := !target.isInsecure && target.authorityFile.isSome

end Link

end Telemetry
