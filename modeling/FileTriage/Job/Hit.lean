/-
What a job finds: hits, and the messages that tell of them.

The time at which a hit was found is left out: two hits are compared without it, and no report tells
it.
-/
import FileTriage.File

namespace FileTriage

/-- A file that satisfies a rule of a set. -/
structure Hit where
  job : UInt64
  file : UInt64
  path : String
  set : String
  rule : String
deriving DecidableEq, Repr

namespace Hit

/-- The hit of a file. -/
def ofFile (job : UInt64) (f : FileRecord) (set rule : String) : Hit :=
  { job, file := f.id, path := f.fullPath, set, rule }

/-- Whether two hits are of the same file, set and rule, whichever job has found them. -/
def sameArtifact (a b : Hit) : Bool := a.file = b.file && a.set = b.set && a.rule = b.rule

end Hit

/-- A message about a hit. -/
structure InboxMessage where
  subject : String
  details : String
  file : UInt64
deriving DecidableEq, Repr

namespace InboxMessage

/-- The message about a hit. -/
def ofHit (h : Hit) : InboxMessage :=
  { subject := s!"Interesting file found: {h.set}"
    details := s!"{h.path} (rule: {h.rule})"
    file := h.file }

/-- The message on one line. -/
def line (m : InboxMessage) : String := s!"{m.subject} | {m.details}"

end InboxMessage

end FileTriage
