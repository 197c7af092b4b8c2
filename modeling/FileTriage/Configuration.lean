/-
The configuration of the program.
-/
import FileTriage.Data.Toml.Reader
import FileTriage.Definitions.Format
import FileTriage.Definitions.Standard
import FileTriage.Disk.Basic
import FileTriage.Job.Run
import FileTriage.Log.Level

namespace FileTriage

open Value (fill collect)

/-- What the program finds around it. -/
structure Surroundings where
  /-- The directory for the user's configurations. -/
  configDirectory : String
  processors : Nat := 1

namespace Surroundings

/-- The program's own directory among the user's configurations. -/
def home (s : Surroundings) : String := Disk.join s.configDirectory "triageset"

/-- The path of the configuration that is used where no other is named. -/
def defaultPath (s : Surroundings) : String := Disk.join s.home "config.toml"

/-- How many workers there are by default: one for each processor, within the limits. -/
def defaultWorkers (s : Surroundings) : Nat :=
  max workerLimits.1 (min s.processors workerLimits.2)

end Surroundings

/-- The configuration of the program. -/
structure Configuration where
  /-- The directory of the stored definitions. -/
  directory : String
  /-- A directory with more shipped sets. -/
  standardDirectory : Option String := none
  workers : Nat
  /-- The name of the filter that decides which files are looked at. -/
  filter : String := Definitions.allFilesName
  /-- The level of the log, as it is written. -/
  level : String := "warn"
deriving DecidableEq, Repr

/-- Why there is no configuration. -/
inductive ConfigurationError where
  | io (path : String) (fault : IoFault)
  | parse (path : String) (cause : DecodeError)
  | workers (count : Nat)
  | unknownLevel (name : String)
  | emptyFilter
deriving DecidableEq, Repr

/-- The wording of an error, where all of it is of this library. -/
def ConfigurationError.message? : ConfigurationError → Option String
  | io path fault => some s!"Failed to read configuration {path}: {fault.message}"
  | parse path cause =>
    cause.message?.map fun m => s!"Failed to parse configuration {path}: {m}"
  | workers count => some
    s!"worker_threads must be between {workerLimits.1} and {workerLimits.2}, got {count}"
  | unknownLevel name => some s!"Unknown log level '{name}'"
  | emptyFilter => some "ingest_filter must not be empty"

namespace Configuration

/-- The configuration where nothing is configured. -/
def default (s : Surroundings) : Configuration := { directory := s.home, workers := s.defaultWorkers }

/-! ## Reading -/

/-- The fields of the table `definitions` as they are collected. -/
structure DefinitionsDraft where
  directory : Option String := none
  standardDirectory : Option (Option String) := none

/-- Adds a field to a draft. -/
def DefinitionsDraft.set (name : String) (v : Value) (d : DefinitionsDraft) :
    Except DataFault DefinitionsDraft :=
  match name with
  | "directory" => (fill d.directory v.asText).map ({ d with directory := · })
  | "standard_sets_dir" =>
    (fill d.standardDirectory (v.asOption Value.asText)).map ({ d with standardDirectory := · })
  | _ => .ok d

/-- The fields of the table `ingest` as they are collected. -/
structure IngestDraft where
  workers : Option Nat := none
  filter : Option String := none

/-- Adds a field to a draft. -/
def IngestDraft.set (name : String) (v : Value) (d : IngestDraft) : Except DataFault IngestDraft :=
  match name with
  | "worker_threads" => (fill d.workers (v.asNat UInt64.size)).map ({ d with workers := · })
  | "ingest_filter" => (fill d.filter v.asText).map ({ d with filter := · })
  | _ => .ok d

/-- The level of the table `logging` as it is collected. -/
structure LoggingDraft where
  level : Option String := none

/-- Adds a field to a draft. -/
def LoggingDraft.set (name : String) (v : Value) (d : LoggingDraft) :
    Except DataFault LoggingDraft :=
  match name with
  | "level" => (fill d.level v.asText).map ({ d with level := · })
  | _ => .ok d

/-- The tables of a configuration as they are collected. -/
structure Draft where
  definitions : Option DefinitionsDraft := none
  ingest : Option IngestDraft := none
  logging : Option LoggingDraft := none

/-- Reads a record of which all fields have defaults. -/
def readPart {σ : Type} (names : List String)
    (set : String → Value → σ → Except DataFault σ) (draft : σ) (v : Value) : Except DataFault σ :=
  (collect ⟨names, set⟩ (.ok ()) draft v).map (·.draft)

/-- Adds a table to a draft. -/
def Draft.set (name : String) (v : Value) (d : Draft) : Except DataFault Draft :=
  match name with
  | "definitions" =>
    (fill d.definitions (readPart ["directory", "standard_sets_dir"] DefinitionsDraft.set {} v)).map
      ({ d with definitions := · })
  | "ingest" =>
    (fill d.ingest (readPart ["worker_threads", "ingest_filter"] IngestDraft.set {} v)).map
      ({ d with ingest := · })
  | "logging" =>
    (fill d.logging (readPart ["level"] LoggingDraft.set {} v)).map ({ d with logging := · })
  | _ => .ok d

/-- Reads a configuration; what it leaves out is as in the default one. -/
def ofValue (s : Surroundings) (v : Value) : Except DataFault Configuration := do
  let d ← readPart ["definitions", "ingest", "logging"] Draft.set {} v
  let definitions := d.definitions.getD {}
  let ingest := d.ingest.getD {}
  let logging := d.logging.getD {}
  let base := default s
  .ok {
    directory := definitions.directory.getD base.directory
    standardDirectory := definitions.standardDirectory.join
    workers := ingest.workers.getD base.workers
    filter := ingest.filter.getD base.filter
    level := logging.level.getD base.level }

/-- Reads a configuration from TOML. -/
def ofText (s : Surroundings) (text : String) : Except DecodeError Configuration :=
  match Toml.read text with
  | none => .error .notToml
  | some v =>
    match ofValue s v with
    | .ok c => .ok c
    | .error fault => .error (.tomlData fault)

/-! ## Checking -/

/-- The level of the log. -/
def logLevel (c : Configuration) : Except ConfigurationError LogLevel :=
  match LogLevel.ofName? c.level with
  | some level => .ok level
  | none => .error (.unknownLevel c.level)

/-- Refuses a configuration that makes no sense. -/
def validate (c : Configuration) : Except ConfigurationError Unit := do
  if !areWorkersInLimits c.workers then throw (.workers c.workers)
  if Text.allBlank c.filter then throw .emptyFilter
  let _ ← c.logLevel

/-! ## Loading -/

/-- The configuration in a file. -/
def loadFile (s : Surroundings) (d : Disk) (path : String) :
    Except ConfigurationError Configuration := do
  let text ← match d.readText path with
    | .ok text => .ok text
    | .error fault => .error (.io path fault)
  let c ← match ofText s text with
    | .ok c => .ok c
    | .error cause => .error (.parse path cause)
  c.validate
  .ok c

/-- The configuration in a file, or in the file that is used by default; that one need not be
there.  Gives the path as well. -/
def load (s : Surroundings) (d : Disk) (path : Option String) :
    Except ConfigurationError (Configuration × String) :=
  match path with
  | some path => (loadFile s d path).map (·, path)
  | none =>
    if d.contains s.defaultPath then (loadFile s d s.defaultPath).map (·, s.defaultPath)
    else .ok (default s, s.defaultPath)

/-- Makes the directory of the definitions. -/
def ensureDirectories (c : Configuration) (d : Disk) : Except ConfigurationError Disk :=
  match d.makeDirectories c.directory with
  | .ok d => .ok d
  | .error fault => .error (.io c.directory fault)

end Configuration

end FileTriage
