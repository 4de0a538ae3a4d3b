import Telemetry.Text.Quoted

/-!
Why an operation of the system failed.
-/

namespace Telemetry

/-- A failure reported by the system, or by a sink in words of its own. -/
inductive Fault where
  | noEntry
  | permissionDenied
  | exists
  | notDirectory
  | isDirectory
  | nameTooLong
  | addressInUse
  | addressNotAvailable
  | nulByte
  | other (text : String)
deriving DecidableEq, Repr

namespace Fault

/-- The number, the kind and the words that the system has for a failure. -/
def system? : Fault → Option (Nat × String × String)
  | .noEntry => some (2, "NotFound", "No such file or directory")
  | .permissionDenied => some (13, "PermissionDenied", "Permission denied")
  | .exists => some (17, "AlreadyExists", "File exists")
  | .notDirectory => some (20, "NotADirectory", "Not a directory")
  | .isDirectory => some (21, "IsADirectory", "Is a directory")
  | .nameTooLong => some (36, "InvalidFilename", "File name too long")
  | .addressInUse => some (98, "AddrInUse", "Address already in use")
  | .addressNotAvailable => some (99, "AddrNotAvailable", "Cannot assign requested address")
  | .nulByte => none
  | .other _ => none

def message (fault : Fault) : String :=
  match fault.system?, fault with
  | some (code, _, words), _ => words ++ " (os error " ++ toString code ++ ")"
  | none, .other text => text
  | none, _ => "file name contained an unexpected NUL byte"

/-- The failure with its parts named. -/
def detail (fault : Fault) : String :=
  match fault.system?, fault with
  | some (code, kind, words), _ =>
      "Os \x7b code: " ++ toString code ++ ", kind: " ++ kind ++ ", message: " ++
        Text.quoted words ++ " \x7d"
  | none, .other text => "Custom \x7b kind: Other, error: " ++ Text.quoted text ++ " \x7d"
  | none, _ =>
      "Error \x7b kind: InvalidInput, message: " ++
        Text.quoted "file name contained an unexpected NUL byte" ++ " \x7d"

end Fault

end Telemetry
