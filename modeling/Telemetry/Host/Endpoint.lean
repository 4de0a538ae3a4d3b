import Std.Async.TCP
import Telemetry.Admin.Listening
import Telemetry.Admin.Wire

/-!
The admin endpoint on the host: a socket that answers requests, one for each connection.
-/

namespace Telemetry.Host

open Std Async

def ipOf : Std.Net.IPAddr → Net.Ip
  | .v4 address => .v4 (address.octets.toList.map UInt8.toNat)
  | .v6 address => .v6 (address.segments.toList.map UInt16.toNat)

def addressOf (address : Std.Net.SocketAddress) : Net.SocketAddress :=
  ⟨ipOf address.ipAddr, 0, address.port.toNat⟩

def toHost (address : Net.SocketAddress) : Std.Net.SocketAddress :=
  let port := address.port.toUInt16
  match address.ip with
  | .v4 bytes => .v4 ⟨⟨Vector.ofFn fun place => (bytes.getD place 0).toUInt8⟩, port⟩
  | .v6 groups => .v6 ⟨⟨Vector.ofFn fun place => (groups.getD place 0).toUInt16⟩, port⟩

/-- The failure that the host reports. -/
def faultOf : IO.Error → Fault
  | .permissionDenied .. => .permissionDenied
  | .resourceBusy .. => .addressInUse
  | .unsatisfiedConstraints .. => .addressNotAvailable
  | reason => .other (toString reason)

/-- A socket that listens on an address, and the address that it got. -/
def listen (address : Net.SocketAddress) :
    IO (Except Fault (TCP.Socket.Server × Net.SocketAddress)) := do
  try
    let server ← TCP.Socket.Server.mk
    server.bind (toHost address)
    server.listen 128
    return .ok (server, addressOf (← server.getSockName))
  catch reason => return .error (faultOf reason)

/-- The text of a request as far as its head goes, read in no more than the given number of
parts. -/
def readHead (client : TCP.Socket.Client) (text : String) : Nat → Async String
  | 0 => return text
  | parts + 1 => do
      if Admin.isComplete text then return text
      match ← client.recv? 8192 with
      | none => return text
      | some bytes => readHead client (text ++ (String.fromUTF8? bytes).getD "") parts

/-- Answers the request of one connection. -/
def answer (respond : String → String → IO Admin.Response) (client : TCP.Socket.Client) :
    Async Unit := do
  let response : Admin.Response ←
    match Admin.requestLine? (← readHead client "" 16) with
    | none => pure Admin.badRequest
    | some (method, target) => respond method target
  client.send response.wire.toUTF8
  client.shutdown

/-- Answers connections one after the other. -/
partial def serve (respond : String → String → IO Admin.Response) (server : TCP.Socket.Server) :
    Async Unit := do
  let client ← server.accept
  try answer respond client catch _ => pure ()
  serve respond server

end Telemetry.Host
