/-
Events that are logged with their data.

Left out of the data are the time at which an event is logged and the number of the process, which
nothing reads.
-/
import FileTriage.Data.Value
import FileTriage.Definitions.Reconcile
import FileTriage.Job.Hit
import FileTriage.Log.Level

namespace FileTriage

/-- What happens to a program and its jobs. -/
inductive Event where
  | startup (configuration definitions : String)
  | reconciled (report : Definitions.Report)
  | jobStarted (job : UInt64) (setCount : Nat)
  | jobFinished (job : UInt64)
  | interestingFile (hit : Hit)
  | error (job : UInt64) (message : String)
deriving DecidableEq, Repr

namespace Event

/-- How grave an event is. -/
def level : Event → LogLevel
  | error .. => .error
  | _ => .info

/-- An event in words. -/
def message : Event → String
  | startup .. => "Started"
  | reconciled _ => "Standard sets reconciled"
  | jobStarted job _ => s!"Job {job.toNat} started"
  | jobFinished job => s!"Job {job.toNat} finished"
  | interestingFile hit => s!"Interesting file: {hit.path}"
  | error _ message => message

/-- The data of a report. -/
def reportFields (r : Definitions.Report) : List (String × Value) :=
  [("added", .list (r.added.map .text)),
   ("upgraded", .list (r.upgraded.map fun c => .table
      [("name", .text c.name), ("from", .nat c.before.toNat), ("to", .nat c.after.toNat)])),
   ("renamed", .list (r.renamed.map fun c => .table
      [("from", .text c.before), ("to", .text c.after)]))]

/-- The data of an event. -/
def data : Event → Value
  | startup configuration definitions => .table
      [("event", .text "startup"), ("config_path", .text configuration),
       ("definitions_dir", .text definitions)]
  | reconciled report =>
    .table (("event", .text "standard_sets_reconciled") :: reportFields report)
  | jobStarted job setCount => .table
      [("event", .text "job_started"), ("job_id", .nat job.toNat), ("set_count", .nat setCount)]
  | jobFinished job => .table [("event", .text "job_finished"), ("job_id", .nat job.toNat)]
  | interestingFile hit => .table
      [("event", .text "interesting_file"), ("job_id", .nat hit.job.toNat),
       ("file_id", .nat hit.file.toNat), ("path", .text hit.path), ("set", .text hit.set),
       ("rule", .text hit.rule)]
  | error job message => .table
      [("event", .text "error"), ("job_id", .nat job.toNat), ("message", .text message)]

end Event

/-- A logger of events: of all of them, or of errors only. -/
structure EventLogger where
  errorsOnly : Bool := false
deriving DecidableEq, Repr

/-- Whether the logger logs an event. -/
def EventLogger.logs (l : EventLogger) (e : Event) : Bool := !l.errorsOnly || e.level = .error

/-- The events that a logger adds to a log for one event. -/
def EventLogger.lines (l : EventLogger) (e : Event) : List Event := if l.logs e then [e] else []

end FileTriage
