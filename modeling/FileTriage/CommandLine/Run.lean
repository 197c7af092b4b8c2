/-
Running a command.

A run takes a disk as it is and gives it back as the command leaves it, with what the command
reports, what it says on the way, and the error that it ends with if it fails.
-/
import FileTriage.CommandLine.Arguments
import FileTriage.Configuration
import FileTriage.Data.Json.Writer
import FileTriage.Definitions.Manager
import FileTriage.Job.Run
import FileTriage.Mime.Types
import FileTriage.Report.Text
import FileTriage.Scan

namespace FileTriage

/-- Why a command fails. -/
inductive CommandError where
  | noSuchPath (path : String)
  | selection (r : Selection.Refusal)
  | workers
  | configuration (e : ConfigurationError)
  | directories (e : ConfigurationError)
  | sets (e : StoreError)
  | filters (e : StoreError)
  | unknownFilter (name : String)
  | reconcile (e : StoreError)
  | job (e : RunError)
deriving DecidableEq, Repr

/-- The wording of an error. -/
def CommandError.message : CommandError → String
  | noSuchPath path => s!"Path does not exist: {path}"
  | selection r => r.message
  | workers => s!"--threads must be between {workerLimits.1} and {workerLimits.2}"
  | configuration _ => "Failed to load configuration"
  | directories e => e.message?.getD "Failed to load configuration"
  | sets _ => "Failed to load interesting files sets"
  | filters _ => "Failed to load file ingest filters"
  | unknownFilter name => s!"Unknown ingest filter: {name}"
  | reconcile _ => "Failed to save reconciled definitions"
  | job _ => "Ingest job failed"

/-- What a command reports. -/
inductive Report where
  | scan (output : ScanOutput) (json : Bool)
  | listing (heading : String) (sets : List SetSummary) (json : Bool)
  | reconciled (report : Definitions.Report)
deriving DecidableEq, Repr

/-- A report as text. -/
def Report.text : Report → String
  | scan output true => Json.pretty output.toValue ++ "\n"
  | scan output false => unlines output.lines
  | listing _ sets true => Json.pretty (.list (sets.map SetSummary.toValue)) ++ "\n"
  | listing heading sets false => unlines (listingLines heading sets)
  | reconciled report => unlines report.lines

/-- A report with the time that the command has taken. -/
def Report.after (r : Report) (milliseconds : UInt64) : Report :=
  match r with
  | scan output json => scan { output with summary.milliseconds := milliseconds } json
  | r => r

/-- What has come of a command: the disk as it is left, what was said on the way, and a report or
an error. -/
structure Finished where
  disk : Disk
  progress : List String := []
  result : Except CommandError Report

namespace Command

/-- Refuses options that make no sense: paths that lead nowhere, selections that cannot be read,
too few or too many workers. -/
def check (d : Disk) : Command → Except CommandError Unit
  | scan o => do
    match o.paths.find? fun path => !d.contains path with
    | some path => throw (.noSuchPath path)
    | none => pure ()
    match Selection.validate o.selections with
    | .error r => throw (.selection r)
    | .ok () => pure ()
    if !(o.workers.all areWorkersInLimits) then throw .workers
  | _ => .ok ()

/-- The disk after reconciling, whether or not that fails. -/
def reconcileQuietly (m : Manager) (d : Disk) : Disk :=
  (m.reconcileOnStartup { disk := d }).2.disk

/-- An error of one kind as an error of a command. -/
def orElse {ε α : Type} (wrap : ε → CommandError) : Except ε α → Except CommandError α
  | .ok a => .ok a
  | .error e => .error (wrap e)

/-- What a scan is about to do. -/
structure ScanPlan where
  spec : JobSpec
  filterName : String
  /-- The names of the sets that are applied, in order. -/
  applied : List String

/-- Makes out what a scan is about to do. -/
def planScan (c : Configuration) (m : Manager) (d : Disk) (o : ScanOptions) (job : UInt64) :
    Except CommandError ScanPlan := do
  let filterName := o.filter.getD c.filter
  let filter ← match ← orElse .filters (m.ingestFilter d filterName) with
    | some filter => .ok filter
    | none => .error (.unknownFilter filterName)
  let available ← orElse .sets (m.interestingSets d)
  let settings := JobSettings.ofSelection o.selections available.keys
  .ok {
    spec := { job, settings, filter, workers := o.workers.getD c.workers }
    filterName, applied := available.keys.filter settings.isEnabled }

/-- The results of a scan that has been run. -/
def scanOutput (plan : ScanPlan) (found : Discovery) (stats : JobStats) (hits : List Hit) :
    ScanOutput :=
  { filter := plan.filterName, sets := plan.applied
    hits := HitRecord.inOrder (hits.map HitRecord.ofHit)
    summary := {
      discovered := .ofNat found.files.length, examined := .ofNat stats.examined
      filteredOut := .ofNat stats.filteredOut, hits := .ofNat hits.length
      errors := .ofNat stats.errors, skipped := .ofNat found.skipped
      interrupted := if found.interrupted || stats.interrupted then some true else none } }

section Running

variable [MimeClassifier]

/-- Scans files. -/
def runScan (c : Configuration) (m : Manager) (d : Disk) (o : ScanOptions) (job : UInt64)
    (now : Instant) : Finished :=
  let d := reconcileQuietly m d
  match planScan c m d o job with
  | .error e => { disk := d, result := .error e }
  | .ok plan =>
    let found := discover d (if o.paths.isEmpty then ["."] else o.paths)
    let progress :=
      if o.quiet || o.json then []
      else ["Discovering files...",
        s!"Applying {plan.applied.length} sets to {found.files.length} entries..."]
    let place : Workplace := { table := { source := { answer := fun _ => m.interestingSets d } } }
    match plan.spec.run {} found.files found.interrupted now place with
    | (.error e, _) => { disk := d, progress, result := .error (.job e) }
    | (.ok stats, place) =>
      { disk := d, progress
        result := .ok (.scan (scanOutput plan found stats place.caseFile.hits) o.json) }

/-- Runs a command with a configuration. -/
def runWith (c : Configuration) (d : Disk) (job : UInt64) (now : Instant) : Command → Finished
  | scan o => runScan c (managerOf c) d o job now
  | listSets json =>
    let d := reconcileQuietly (managerOf c) d
    { disk := d
      result := do
        let sets ← orElse .sets ((managerOf c).interestingSets d)
        .ok (.listing "Interesting files sets" (sets.values.map SetSummary.ofSet) json) }
  | reconcileSets =>
    let (report, state) := (managerOf c).reconcileOnStartup { disk := d }
    { disk := state.disk, result := (orElse .reconcile report).map .reconciled }
  | listFilters json =>
    { disk := d
      result := do
        let filters ← orElse .filters ((managerOf c).ingestFilters d)
        .ok (.listing "File ingest filters" (filters.values.map SetSummary.ofSet) json) }
where
  /-- The definitions that a configuration names. -/
  managerOf (c : Configuration) : Manager := ⟨⟨c.directory⟩, c.standardDirectory⟩

end Running

end Command

/-- Runs the program: checks the command, loads the configuration, makes the directory of the
definitions, and runs the command with the program's classifier. -/
def Invocation.run (i : Invocation) (s : Surroundings) (d : Disk) (job : UInt64) (now : Instant) :
    Finished :=
  let prepared : Except CommandError (Configuration × Disk) := do
    i.command.check d
    let (c, _) ← Command.orElse .configuration (Configuration.load s d i.configuration)
    let d ← Command.orElse .directories (c.ensureDirectories d)
    .ok (c, d)
  match prepared with
  | .error e => { disk := d, result := .error e }
  | .ok (c, d) => Command.runWith c d job now i.command

end FileTriage
