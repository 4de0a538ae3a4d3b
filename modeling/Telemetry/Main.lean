import Std.Async.Signal
import Std.Time
import Telemetry.Host.Endpoint
import Telemetry.Host.Probe
import Telemetry.Host.Snapshot
import Telemetry.Service.Launch

/-!
The command line: the collector runs until it is told to stop. Everything it does is decided by the
service; here the host's files, peers and signals are looked at, and the log is written.
-/

namespace Telemetry.Host

open Std Async

/-- A run in progress. -/
structure Run where
  launch : Launch
  service : DefaultService
  /-- Attempts to reach addresses that initialisations wait for. -/
  probes : List (String × Task Peer)
  /-- How many entries of the log have been written. -/
  logged : Nat

/-- The time between two looks at the host. -/
def intervalMs : UInt32 := 100

/-- More rounds than watchers need to come to rest. -/
def roundLimit : Nat := 1000000

def timeStamp : IO String := do
  let now := Time.DateTime.ofTimestampWithZone (← Time.Timestamp.now) .UTC
  return now.toPlainDateTime.toLeanDateTimeString ++ "Z"

def writeLine (outlet : LogOutlet) (line : String) : IO Unit := do
  let line := (← timeStamp) ++ " " ++ line
  match outlet with
  | .nowhere => pure ()
  | .errors => IO.eprintln line
  | .file path => IO.FS.withFile path .append fun file => file.putStrLn line

/-- Writes what was logged since the last time. -/
def Run.writeLog (run : Run) : IO Run := do
  for entry in run.launch.written LogFilter.read (run.service.log.drop run.logged) do
    writeLine run.launch.outlet entry.line
  return { run with logged := run.service.log.length }

/-- The files that matter as they are now. -/
def lookAround (launch : Launch) (service : DefaultService) : IO World := do
  let environment := launch.world.environment
  let registered := service.reconciler.registry.entries.entries.filterMap fun entry =>
    entry.2.target.authorityFile
  let paths := Launch.sourcePaths environment ++ registered ++
    Launch.neededFiles service.reconciler.source.source.current
  return ⟨← snapshot paths, environment⟩

/-- Keeps the attempts that are waited for, and begins those that are missing. -/
def Run.reachOut (run : Run) : IO Run := do
  let awaited := Launch.awaited run.service
  let kept := run.probes.filter (fun entry => awaited.contains entry.1)
  let missing := awaited.eraseDups.filter fun address =>
    !kept.any (fun entry => entry.1 == address)
  let begun ← missing.mapM fun address => return (address, ← probe address)
  return { run with probes := kept ++ begun }

/-- What the attempts have found so far. -/
def Run.peers (run : Run) : IO (List (String × Peer)) :=
  run.probes.filterMapM fun (address, attempt) => do
    if ← IO.hasFinished attempt then return some (address, attempt.get) else return none

/-- One look at the host, and what follows from it. -/
def Run.tick (run : Run) : IO Run := do
  let world ← lookAround run.launch run.service
  let peers ← run.peers
  let peer (address : String) : Peer := (peers.lookup address).getD .unreached
  let service := Launch.goOn roundLimit peer (Launch.inWorld world run.service)
  let run ← ({ run with service := service } : Run).reachOut
  run.writeLog

/-- Opens the socket of the admin endpoint, if one is configured. -/
def openEndpoint (launch : Launch) :
    IO (Option (Except Fault (TCP.Socket.Server × Net.SocketAddress))) :=
  match Net.SocketAddress.parse? launch.loaded.declaration.settings.api with
  | none => return none
  | some address => return some (← listen address)

/-- The outcome of an opening as the service asks for it. -/
def listening (opened : Option (Except Fault (TCP.Socket.Server × Net.SocketAddress))) :
    Admin.Listen := fun address =>
  match opened with
  | none => .ok address
  | some (.ok (_, bound)) => .ok bound
  | some (.error fault) => .error fault

/-- Makes the file that the log goes to, with the directories above it. -/
def openLog : LogOutlet → IO Unit
  | .file path => do
      match Files.parent? path with
      | some parent => if parent ≠ "" then IO.FS.createDirAll parent
      | none => pure ()
      IO.FS.withFile path .append fun _ => pure ()
  | _ => pure ()

/-- Looks at the host again and again until a signal comes. -/
partial def untilSignal (shared : IO.Ref DefaultService) (interrupt terminate : AsyncTask Int)
    (run : Run) : IO (StopSignal × Run) := do
  let run ← run.tick
  shared.set run.service
  if ← IO.hasFinished interrupt then return (.interrupt, run)
  if ← IO.hasFinished terminate then return (.terminate, run)
  IO.sleep intervalMs
  untilSignal shared interrupt terminate run

/-- Waits until the shutdown returns. The looks are counted once it waits for initialisations. -/
partial def untilReturned (looks : Nat) (run : Run) : IO Run := do
  let run ← run.tick
  let service := run.service.continueCall (looks = 0) 0
  let run := { run with service := service }
  if (service.outcome? 0).isSome then return run
  let draining := service.calls.any (·.phase = .draining)
  IO.sleep intervalMs
  untilReturned (if draining then looks - 1 else looks) run

/-- A run from its first pass to its end. -/
def runLaunch (launch : Launch) : IO Unit := do
  openLog launch.outlet
  for line in launch.debugLines LogFilter.read do writeLine launch.outlet line
  let interrupt ← (← Signal.Waiter.mk .sigint false).wait
  let terminate ← (← Signal.Waiter.mk .sigterm false).wait
  let opened ← openEndpoint launch
  let (_, service) := launch.begin (listening opened)
  let shared ← IO.mkRef service
  if let some (.ok (server, _)) := opened then
    let _ ← (serve (fun method target => return (← shared.get).respond method target) server).toIO
  let (signal, run) ← untilSignal shared interrupt terminate ⟨launch, service, [], 0⟩
  let run := { run with service := Launch.stop signal run.service }
  let run ← untilReturned (drainTimeoutMs / intervalMs.toNat) run
  let _ ← ({ run with service := Launch.finish run.service } : Run).writeLog

/-- The files that a launch may ask for, as far as the source is known to name them. -/
def firstLook : IO World := do
  let environment ← environment
  let world : World := ⟨← snapshot (Launch.sourcePaths environment), environment⟩
  match Declaration.load world with
  | .error _ => return world
  | .ok loaded =>
      let paths := Launch.sourcePaths environment ++ Launch.neededFiles loaded.declaration
      return { world with files := ← snapshot paths }

end Telemetry.Host

open Telemetry in
def main : IO UInt32 := do
  match Launch.prepare (← Host.firstLook) with
  | .error reason =>
      IO.eprintln (Launch.failureText reason)
      return 1
  | .ok launch =>
      Host.runLaunch launch
      return 0
