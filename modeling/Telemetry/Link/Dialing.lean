import Telemetry.Declaration.Basic

/-!
Dialling: the options applied to every connection, and what they add up to.
-/

namespace Telemetry

inductive DialOption where
  /-- Wait for the connection before the target counts as ready. -/
  | block
  /-- Greatest size of a received message in bytes. -/
  | maxReceive (size : UInt64)
  /-- Connect directly, whatever the environment says about proxies. -/
  | noProxy
deriving DecidableEq, Repr

/-- The options that settings ask for, in order. -/
def Settings.dialOptions (settings : Settings) : List DialOption :=
  .block ::
    ((if 0 < settings.maxMessageSize then [.maxReceive settings.maxMessageSize] else []) ++
      (if settings.proxyFromEnvironment then [] else [.noProxy]))

/-- What dial options add up to. -/
structure Dialing where
  block : Bool
  maxReceive : Option UInt64
  proxyFromEnvironment : Bool
deriving DecidableEq, Repr

namespace Dialing

def default : Dialing := ⟨false, none, true⟩

def apply (dialing : Dialing) : DialOption → Dialing
  | .block => { dialing with block := true }
  | .maxReceive size => { dialing with maxReceive := some size }
  | .noProxy => { dialing with proxyFromEnvironment := false }

def ofOptions (options : List DialOption) : Dialing := options.foldl apply default

def ofSettings (settings : Settings) : Dialing := ofOptions settings.dialOptions

end Dialing

end Telemetry
