/-
Workers: they take part in a job, one at a time, and post a hit for every set of the job that a
file belongs to.
-/
import FileTriage.Job.Hit
import FileTriage.Job.Table
import FileTriage.Log.Event

namespace FileTriage

/-- The case that hits are posted to, and the inbox that messages about them go to. -/
structure CaseFile where
  isOpen : Bool := true
  /-- Whether hits are taken. -/
  accepting : Bool := true
  /-- Whether it is known which hits have been taken. -/
  remembering : Bool := true
  hits : List Hit := []
  messages : List InboxMessage := []
deriving DecidableEq

/-- Whether the case knows of a hit of the same file, set and rule. -/
def CaseFile.knows (c : CaseFile) (h : Hit) : Bool := c.remembering && c.hits.any h.sameArtifact

/-- What workers share: the table of jobs, the case, and the log. -/
structure Workplace where
  table : JobTable
  caseFile : CaseFile := {}
  log : List Event := []

/-- A worker, and the snapshot of the job that it takes part in. -/
structure Worker where
  settings : JobSettings := {}
  logger : EventLogger := {}
  job : Option JobSnapshot := none
deriving DecidableEq

/-- What a worker says of an event. -/
def Workplace.report (p : Workplace) (logger : EventLogger) (e : Event) : Workplace :=
  { p with log := p.log ++ logger.lines e }

/-- Posts a hit, unless the case knows of it or does not take it. -/
def Workplace.post (p : Workplace) (logger : EventLogger) (h : Hit) : Workplace :=
  if p.caseFile.knows h || !p.caseFile.accepting then p
  else
    let c := p.caseFile
    let posted : Workplace := { p with
      caseFile := { c with
        hits := c.hits ++ [h], messages := c.messages ++ [InboxMessage.ofHit h] } }
    posted.report logger (.interestingFile h)

namespace Worker

/-- The job that the worker takes part in. -/
def jobId? (w : Worker) : Option UInt64 := w.job.map (·.job)

/-- The worker leaves its job. -/
def stop (w : Worker) (p : Workplace) : Worker × Workplace :=
  match w.job with
  | none => (w, p)
  | some snapshot =>
    let (last, table) := p.table.stop snapshot.job
    let p := { p with table }
    ({ w with job := none },
      if last then p.report w.logger (.jobFinished snapshot.job) else p)

/-- The worker leaves its job and joins another, if that can be. -/
def start (w : Worker) (p : Workplace) (job : UInt64) :
    Except IngestError Unit × Worker × Workplace :=
  let (w, p) := w.stop p
  match p.table.start job w.settings with
  | (.error e, table) => (.error e, w, { p with table })
  | (.ok snapshot, table) =>
    (.ok (), { w with job := some snapshot },
      Workplace.report { p with table } w.logger (.jobStarted job snapshot.sets.length))

/-- What is said where no case is open. -/
def noCaseMessage : String := "No case is currently open"

/-- The worker looks at a file; says whether it could. -/
def process (w : Worker) (p : Workplace) (f : FileRecord) (now : Instant) : Bool × Workplace :=
  match w.job with
  | none => (false, p)
  | some snapshot =>
    if !p.caseFile.isOpen then (false, p.report w.logger (.error snapshot.job noCaseMessage))
    else if f.fileType = .slack then (true, p)
    else
      (true, (snapshot.memberships f now).foldl (fun p (set, rule) =>
        p.post w.logger (.ofFile snapshot.job f set rule)) p)

end Worker

end FileTriage
