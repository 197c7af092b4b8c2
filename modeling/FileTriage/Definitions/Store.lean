/-
Definitions on a disk.

A store is a directory with one file for each kind of definitions.  A file that is not there may
have an older one in its place, which is read and never written.  Every save is announced to those
who have subscribed.
-/
import FileTriage.Definitions.Format
import FileTriage.Disk.Basic

namespace FileTriage

/-- The kinds of definitions that are stored. -/
inductive StoreKey where
  | interestingItems
  | ingestFilters
deriving DecidableEq, Repr

namespace StoreKey

/-- The name of the file. -/
def fileName : StoreKey → String
  | interestingItems => "interesting_file_sets.toml"
  | ingestFilters => "file_ingest_filters.toml"

/-- The name of the older file. -/
def legacyFileName : StoreKey → String
  | interestingItems => "interesting_file_sets.json"
  | ingestFilters => "file_ingest_filters.json"

/-- What messages call the definitions. -/
def label : StoreKey → String
  | interestingItems => "interesting items"
  | ingestFilters => "file ingest filters"

/-- The kinds under their names. -/
def variants : List (String × StoreKey) :=
  [("interesting_items", interestingItems), ("file_ingest_filters", ingestFilters)]

end StoreKey

/-- Why definitions cannot be loaded or saved. -/
inductive StoreError where
  | io (path : String) (fault : IoFault)
  | decode (path : String) (cause : DecodeError)
  | encode (cause : EncodeError)
deriving DecidableEq, Repr

/-- The wording of an error, where all of it is of this library. -/
def StoreError.message? : StoreError → Option String
  | io path fault => some s!"I/O error on {path}: {fault.message}"
  | decode path cause =>
    cause.message?.map fun m => s!"Failed to decode definitions in {path}: {m}"
  | encode cause => cause.message?.map fun m => s!"Failed to encode definitions: {m}"

/-- A save, as it is announced. -/
structure Saved where
  store : StoreKey
  setCount : Nat
deriving DecidableEq, Repr

/-- The directory of a store. -/
structure Store where
  directory : String

namespace Store

/-- The path of the file for a kind of definitions. -/
def pathFor (s : Store) (key : StoreKey) : String := Disk.join s.directory key.fileName

/-- The path of the older file. -/
def legacyPathFor (s : Store) (key : StoreKey) : String := Disk.join s.directory key.legacyFileName

/-! ## Loading -/

/-- The definitions in a file; `absent` is what a file that is not there stands for. -/
def loadFile (d : Disk) (path : String) (absent : Except StoreError Definitions) :
    Except StoreError Definitions :=
  match d.read path with
  | .ok bytes =>
    match Definitions.ofBytes bytes with
    | .ok sets => .ok sets
    | .error cause => .error (.decode path cause)
  | .error .notFound => absent
  | .error fault => .error (.io path fault)

/-- The definitions of a kind: those of its file, or else of the older file, or else none. -/
def load (s : Store) (d : Disk) (key : StoreKey) : Except StoreError Definitions :=
  loadFile d (s.pathFor key) (loadFile d (s.legacyPathFor key) (.ok .empty))

/-! ## Saving -/

/-- A disk, and the saves that have been announced so far. -/
structure State where
  disk : Disk
  saves : List Saved := []

/-- Saves definitions: writes them out, makes the directory, replaces the file and announces it.
Nothing changes unless all of them can be written. -/
def save (s : Store) (state : State) (key : StoreKey) (sets : Definitions) :
    Except StoreError Unit × State :=
  match sets.toToml with
  | .error cause => (.error (.encode cause), state)
  | .ok text =>
    match state.disk.makeDirectories s.directory with
    | .error fault => (.error (.io s.directory fault), state)
    | .ok made =>
      match made.replaceFile (s.pathFor key) (Text.Utf8.encode text) with
      | .error fault => (.error (.io (s.pathFor key) fault), { state with disk := made })
      | .ok disk => (.ok (), { disk, saves := state.saves ++ [⟨key, sets.size⟩] })

end Store

/-! ## Subscribing -/

/-- How many announcements are kept for those who have not received them. -/
def announcementsKept : Nat := 16

/-- A subscriber: how many announcements it has received or missed. -/
structure Subscriber where
  passed : Nat
deriving DecidableEq, Repr

/-- What a subscriber receives. -/
inductive Receipt where
  | announcement (saved : Saved)
  | nothingNew
  /-- So many announcements have not been kept. -/
  | missed (count : Nat)
deriving DecidableEq, Repr

namespace Subscriber

/-- A subscriber to what comes after these saves. -/
def after (saves : List Saved) : Subscriber := ⟨saves.length⟩

/-- What the subscriber receives next. -/
def receive (s : Subscriber) (saves : List Saved) : Receipt × Subscriber :=
  let oldest := saves.length - announcementsKept
  if s.passed < oldest then (.missed (oldest - s.passed), ⟨oldest⟩)
  else
    match saves[s.passed]? with
    | some saved => (.announcement saved, ⟨s.passed + 1⟩)
    | none => (.nothingNew, s)

end Subscriber

end FileTriage
