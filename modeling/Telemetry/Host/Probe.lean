import Std.Async.DNS
import Std.Async.TCP
import Telemetry.Link.Connection

/-!
Reaching for the peers of targets. A peer that takes a connection is not spoken to any further, so
that a secure connection to it stays on its way.
-/

namespace Telemetry.Host

open Std Async

/-- The host and the port that an address names, with a port for an address that names none. -/
def hostAndPort (address : String) (defaultPort : Nat) : String × Nat :=
  let authority := address.toList.takeWhile (fun c => !Net.endsAuthority c)
  let place := (authority.reverse.takeWhile (· != '@')).reverse
  let port := (place.reverse.takeWhile Char.isDigit).reverse
  if !port.isEmpty && (place.reverse.drop port.length).head? == some ':' then
    (String.ofList (serverName place), (String.ofList port).toNat?.getD defaultPort)
  else (String.ofList (serverName (place ++ [':'])), defaultPort)

def socketAddress (port : Nat) : Std.Net.IPAddr → Std.Net.SocketAddress
  | .v4 address => .v4 ⟨address, port.toUInt16⟩
  | .v6 address => .v6 ⟨address, port.toUInt16⟩

/-- Whether one of the host's addresses takes a connection. -/
def reach (host : String) (port : Nat) : Async Peer := do
  for address in ← DNS.getAddrInfo host (toString port) do
    let client ← TCP.Socket.Client.mk
    try
      client.connect (socketAddress port address)
      return .silent
    catch _ => continue
  return .refusing

/-- Reaches for an address in the background. -/
def probe (address : String) : IO (Task Peer) := do
  let (host, port) := hostAndPort address 443
  let attempt : Task (Except IO.Error Peer) ← (reach host port).toIO
  return attempt.map fun outcome => outcome.toOption.getD .refusing

end Telemetry.Host
