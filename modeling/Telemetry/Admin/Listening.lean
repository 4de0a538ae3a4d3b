import Telemetry.Error
import Telemetry.Net.SocketAddress

/-!
Where the admin endpoint listens.
-/

namespace Telemetry.Admin

/-- Whether the host lets a server listen on an address, and on which one it then does. -/
abbrev Listen := Net.SocketAddress → Except Fault Net.SocketAddress

/-- The address that the endpoint listens on. -/
def start (listen : Listen) (address : Net.SocketAddress) : Except Error Net.SocketAddress :=
  match listen address with
  | .ok bound => .ok bound
  | .error fault => .error (.system (.adminServer address.text fault))

end Telemetry.Admin
