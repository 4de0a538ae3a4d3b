import Telemetry.Files.Fault
import Telemetry.Json.Reader

/-!
Failures of the collector, by the part that raises them, and the words they are reported in.
-/

namespace Telemetry

/-- Why a source of the configuration could not be read. -/
inductive ConfigError where
  /-- No file of the name, nor with the format's extension added. -/
  | fileNotFound (path : String)
  | unknownFileFormat (path : String)
  | notText
  | unreadableFile (fault : Fault)
  /-- The text of the file is not in the format. -/
  | badSyntax
  /-- A key of the base does not spell a path. -/
  | badPath (flaw : String)
  /-- A whole number of the base is too big to be stored. -/
  | tooBig (value : Nat)
  /-- A value cannot be taken as what its setting needs. -/
  | wrongType (found expected : String) (key : Option String) (origin : Option String)
  /-- A group of settings is given as something else. -/
  | wrongShape (found expected : String)
  /-- Any other reason a source of targets has. -/
  | unreadable (reason : String)
deriving DecidableEq, Repr

def ConfigError.message : ConfigError → String
  | .fileNotFound path => "configuration file \"" ++ path ++ "\" not found"
  | .unknownFileFormat path =>
      "configuration file \"" ++ path ++ "\" is not of a registered file format"
  | .notText => "stream did not contain valid UTF-8"
  | .unreadableFile fault => fault.message
  | .badSyntax => "TOML parse error"
  | .badPath flaw => flaw
  | .tooBig value =>
      "value " ++ toString value ++ " is greater than the max " ++
        toString (Decimal.signedBound - 1)
  | .wrongType found expected key origin =>
      "invalid type: " ++ found ++ ", expected " ++ expected ++
        (match key with
          | some key => " for key `" ++ key ++ "`"
          | none => "") ++
        (match origin with
          | some origin => " in " ++ origin
          | none => "")
  | .wrongShape found expected => "invalid type: " ++ found ++ ", expected " ++ expected
  | .unreadable reason => reason

def ConfigError.kind : ConfigError → String
  | .fileNotFound _ => "Foreign"
  | .unknownFileFormat _ => "Foreign"
  | .notText => "Foreign"
  | .unreadableFile _ => "Foreign"
  | .badSyntax => "FileParse"
  | .badPath _ => "PathParse"
  | .wrongType _ _ _ _ => "Type"
  | _ => "Message"

/-- Why a configuration is refused although it could be read. -/
inductive Invalid where
  | unknownFormat (format : String)
  | badApiAddress (api : String)
  | zeroTimeout
  | unnamedTarget
  | zeroTargetTimeout (name : String)
  | notAFile (path : String)
deriving DecidableEq, Repr

/-- The names of output formats that may be configured besides the empty one. -/
def namedFormats : List String := ["json", "event"]

def Invalid.reason : Invalid → String
  | .unknownFormat format =>
      "unknown output format " ++ Text.quoted format ++ ", expected one of " ++
        Text.quotedList namedFormats
  | .badApiAddress api => "api address " ++ Text.quoted api ++ " is not a valid socket address"
  | .zeroTimeout => "timeout_in_ms must be greater than 0"
  | .unnamedTarget => "target name cannot be empty"
  | .zeroTargetTimeout name =>
      "target " ++ Text.quoted name ++ " timeout_in_ms must be greater than 0"
  | .notAFile path => path ++ " is not a file path"

/-- Failures of the target registry. -/
inductive TargetError where
  | noTargets
  | alreadyExists (name : String)
  | notFound (name : String)
  | invalidAddress (name address : String)
  | connect (name : String)
  | cancelled (name : String)
deriving DecidableEq, Repr

def TargetError.message : TargetError → String
  | .noTargets => "no targets found"
  | .alreadyExists name => "target " ++ Text.quoted name ++ " already exists"
  | .notFound name => "target " ++ Text.quoted name ++ " does not exist"
  | .invalidAddress name address =>
      "target " ++ Text.quoted name ++ " has invalid address " ++ Text.quoted address
  | .connect name => "failed to connect target " ++ Text.quoted name
  | .cancelled name => "initialization of target " ++ Text.quoted name ++ " cancelled"

def TargetError.kind : TargetError → String
  | .noTargets => "NoTargetsFound"
  | .alreadyExists _ => "AlreadyExists"
  | .notFound _ => "NotFound"
  | .invalidAddress _ _ => "InvalidAddress"
  | .connect _ => "Connect"
  | .cancelled _ => "Cancelled"

/-- Failures of a formatter. -/
inductive FormatError where
  | unsupported (format : String)
  | json (reason : Json.TextError)
deriving DecidableEq, Repr

def FormatError.message : FormatError → String
  | .unsupported format => "unsupported output format " ++ Text.quoted format
  | .json reason => reason.message

/-- Failures of the process's surroundings. -/
inductive SystemError where
  | io (fault : Fault)
  | watch (fault : Fault) (directory : String)
  | adminServer (address : String) (fault : Fault)
deriving DecidableEq, Repr

def SystemError.message : SystemError → String
  | .io fault => fault.message
  | .watch fault directory => fault.message ++ " about " ++ Text.quotedList [directory]
  | .adminServer address fault =>
      "Admin server error: " ++ address ++ ": error creating server listener: " ++ fault.message

inductive Error where
  | config (reason : ConfigError)
  | invalid (reason : Invalid)
  | target (reason : TargetError)
  | format (reason : FormatError)
  | system (reason : SystemError)
deriving DecidableEq, Repr

namespace Error

def message : Error → String
  | .config reason => reason.message
  | .invalid reason => "Invalid config: " ++ reason.reason
  | .target reason => reason.message
  | .format reason => reason.message
  | .system reason => reason.message

/-- The failure with its part named. -/
def detail : Error → String
  | .config reason => "Config(" ++ reason.message ++ ")"
  | .invalid reason => "InvalidConfig(" ++ Text.quoted reason.reason ++ ")"
  | .target reason => "Target(" ++ reason.message ++ ")"
  | .format reason => "Format(" ++ reason.message ++ ")"
  | .system (.io fault) => "System(Io(" ++ fault.detail ++ "))"
  | .system reason => "System(" ++ reason.message ++ ")"

/-- The kind of the failure, by part and name. -/
def kind : Error → String
  | .config reason => "Config." ++ reason.kind
  | .invalid _ => "InvalidConfig"
  | .target reason => "Target." ++ reason.kind
  | .format (.unsupported _) => "Format.UnsupportedFormat"
  | .format (.json _) => "Format.Json"
  | .system (.io _) => "System.Io"
  | .system (.watch _ _) => "System.Watch"
  | .system (.adminServer _ _) => "System.AdminServer"

/-- Whether the source of the configuration declares no targets at all, which is no failure to
whoever brings the registry in line with it. -/
def isNoTargets : Error → Bool
  | .target .noTargets => true
  | _ => false

end Error

end Telemetry
