import Telemetry.NameMap

/-!
What an operator declares: settings for the whole collector, and targets by name.
-/

namespace Telemetry

/-- Settings of the whole collector. Those from username to timeout stand in for what a target
leaves unset. -/
structure Settings where
  /-- Name of the output format; the empty name selects JSON with built-in layouts. -/
  format : String
  /-- No source labels, even with several targets. -/
  noLabels : Bool
  debug : Bool
  log : Bool
  /-- File that takes the log; none when empty. -/
  logFile : String
  /-- Greatest size of a received message in bytes; 0 leaves it to the transport. -/
  maxMessageSize : UInt64
  proxyFromEnvironment : Bool
  /-- Address of the admin endpoint; disabled when empty. -/
  api : String
  username : Option String
  password : Option String
  insecure : Bool
  skipVerify : Bool
  timeoutMs : UInt64
deriving DecidableEq, Repr

def defaultTimeoutMs : UInt64 := 10000

def Settings.default : Settings where
  format := ""
  noLabels := false
  debug := false
  log := false
  logFile := ""
  maxMessageSize := 0
  proxyFromEnvironment := false
  api := ""
  username := none
  password := none
  insecure := false
  skipVerify := false
  timeoutMs := defaultTimeoutMs

instance : Inhabited Settings := ⟨Settings.default⟩

/-- Logging is on when asked for, and whenever debugging or a log file is. -/
def Settings.loggingEnabled (settings : Settings) : Bool :=
  settings.log || settings.debug || settings.logFile != ""

/-- How to reach one monitored device. -/
structure Target where
  name : String
  /-- Host and port; the name stands in for an empty address. -/
  address : String
  username : Option String
  password : Option String
  insecure : Option Bool
  skipVerify : Option Bool
  timeoutMs : Option UInt64
  /-- File of the authorities that the device's certificate is checked against. -/
  authorityFile : Option String
  subscriptions : List String
deriving DecidableEq, Repr

def Target.default : Target where
  name := ""
  address := ""
  username := none
  password := none
  insecure := none
  skipVerify := none
  timeoutMs := none
  authorityFile := none
  subscriptions := []

instance : Inhabited Target := ⟨Target.default⟩

/-- A target of which only the name and the address are set. -/
def Target.ofAddress (name address : String) : Target :=
  { Target.default with name := name, address := address }

def Target.isInsecure (target : Target) : Bool := target.insecure.getD false

/-- Targets by name. -/
abbrev TargetSet := NameMap Target

structure Declaration where
  settings : Settings
  targets : TargetSet
deriving DecidableEq, Repr

def Declaration.default : Declaration where
  settings := Settings.default
  targets := NameMap.empty

instance : Inhabited Declaration := ⟨Declaration.default⟩

end Telemetry
