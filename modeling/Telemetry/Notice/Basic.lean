import Telemetry.Notice.FileEvent

/-!
Notices: what is passed on of a change to the source of targets. Only writes and creations change
what the source declares, so only they call for a pass over the registry.
-/

namespace Telemetry

inductive NoticeKind where
  /-- The content was written. -/
  | write
  /-- The source came to be, anew or again. -/
  | create
  | other
deriving DecidableEq, Repr

namespace NoticeKind

def triggersPass : NoticeKind → Bool
  | .write => true
  | .create => true
  | .other => false

/-- A file that is renamed onto the name of the source replaces it, which is how many editors
save, so it counts as a creation. -/
def ofFileEvent : FileEventKind → NoticeKind
  | .create _ => .create
  | .modify (.name .to) => .create
  | .modify (.data _) => .write
  | .modify .any => .write
  | _ => .other

def label : NoticeKind → String
  | .write => "Write"
  | .create => "Create"
  | .other => "Other"

end NoticeKind

/-- One change to the source at a path. -/
structure Notice where
  kind : NoticeKind
  path : String
deriving DecidableEq, Repr

end Telemetry
