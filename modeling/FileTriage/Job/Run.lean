/-
Running a job over a batch of files.

All workers join the job before the first file is looked at, and leave it at the end, also where
one of them could not join.  Which worker looks at which file, and in what order, is a schedule.
Left out are the fault of a system that has no threads to give, which comes before any of this, and
the time that a run takes.
-/
import FileTriage.Job.Filter
import FileTriage.Job.Worker

namespace FileTriage

/-- What a run is to do. -/
structure JobSpec where
  job : UInt64
  settings : JobSettings := {}
  filter : FilesSet
  workers : Nat

/-- The least and the greatest number of workers. -/
def workerLimits : Nat × Nat := (1, 256)

/-- Whether there may be so many workers. -/
def areWorkersInLimits (n : Nat) : Bool := workerLimits.1 ≤ n && n ≤ workerLimits.2

/-- Why a job cannot be run. -/
inductive RunError where
  | workers (count : Nat)
  | ingest (e : IngestError)
deriving DecidableEq, Repr

/-- The wording of an error, where all of it is of this library. -/
def RunError.message? : RunError → Option String
  | workers count => some
    s!"Worker thread count {count} is outside {workerLimits.1}..={workerLimits.2}"
  | ingest e => e.message?

/-- What a run has counted. -/
structure JobStats where
  examined : Nat := 0
  filteredOut : Nat := 0
  errors : Nat := 0
  interrupted : Bool := false
deriving DecidableEq, Repr

namespace JobSpec

/-! ## Joining and leaving -/

/-- So many workers join the job, one after the other; the first error counts. -/
def joinAll (spec : JobSpec) (logger : EventLogger) :
    Nat → Workplace → Option IngestError × List Worker × Workplace
  | 0, p => (none, [], p)
  | n + 1, p =>
    match Worker.start { settings := spec.settings, logger } p spec.job with
    | (result, w, p) =>
      match joinAll spec logger n p with
      | (failure, workers, p) =>
        match result with
        | .ok () => (failure, w :: workers, p)
        | .error e => (some e, w :: workers, p)

/-- All workers leave their jobs. -/
def leaveAll (workers : List Worker) (p : Workplace) : Workplace :=
  workers.foldl (fun p w => (w.stop p).2) p

/-! ## Files -/

/-- One step of a schedule: which worker looks at which file, and whether the run has been
interrupted by then. -/
structure Step where
  worker : Nat
  file : FileRecord
  interrupted : Bool := false

/-- A worker looks at a file, if the filter lets it through. -/
def handle (spec : JobSpec) (workers : List Worker) (now : Instant) (state : JobStats × Workplace)
    (step : Step) : JobStats × Workplace :=
  let (stats, p) := state
  if step.interrupted then state
  else if !spec.filter.admits step.file now then
    ({ stats with filteredOut := stats.filteredOut + 1 }, p)
  else
    match workers[step.worker]? with
    | none => ({ stats with errors := stats.errors + 1 }, p)
    | some w =>
      let (done, p) := w.process p step.file now
      ({ stats with
          examined := stats.examined + 1, errors := stats.errors + (if done then 0 else 1) }, p)

/-- Runs a job on a schedule; `interrupted` says whether the run has been interrupted at its end. -/
def runOn (spec : JobSpec) (logger : EventLogger) (schedule : List Step) (interrupted : Bool)
    (now : Instant) (p : Workplace) : Except RunError JobStats × Workplace :=
  if !areWorkersInLimits spec.workers then (.error (.workers spec.workers), p)
  else
    match spec.joinAll logger spec.workers p with
    | (some e, workers, p) => (.error (.ingest e), leaveAll workers p)
    | (none, workers, p) =>
      let (stats, p) := schedule.foldl (spec.handle workers now) ({}, p)
      (.ok { stats with interrupted }, leaveAll workers p)

/-- The schedule in which the workers take turns. -/
def inTurn (workers : Nat) (files : List FileRecord) (interrupted : Bool) : List Step :=
  files.mapIdx fun i file => { worker := i % workers, file, interrupted }

/-- Runs a job over files. -/
def run (spec : JobSpec) (logger : EventLogger) (files : List FileRecord) (interrupted : Bool)
    (now : Instant) (p : Workplace) : Except RunError JobStats × Workplace :=
  spec.runOn logger (inTurn spec.workers files interrupted) interrupted now p

end JobSpec

end FileTriage
