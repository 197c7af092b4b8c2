/-
Discovering the files of a scan.

A directory is walked in the order of the names in it, each entry before what is below it; links
are listed and not followed.  A scan may be interrupted between any two entries.  It is given a
classifier, which it asks for the MIME types of regular files.
-/
import FileTriage.Disk.Basic
import FileTriage.File
import FileTriage.Mime

namespace FileTriage

/-- What a scan has discovered. -/
structure Discovery where
  files : List FileRecord := []
  /-- How many entries could not be read. -/
  skipped : Nat := 0
  interrupted : Bool := false
deriving DecidableEq

/-- A scan on its way: what it has discovered, the last first, and how many more entries it will
look at before it is interrupted, if it ever is. -/
structure Scan where
  files : List FileRecord := []
  skipped : Nat := 0
  interrupted : Bool := false
  patience : Option Nat := none

namespace Scan

/-- Asks whether to go on. -/
def goOn (s : Scan) : Bool × Scan :=
  match s.patience with
  | none => (true, s)
  | some 0 => (false, { s with interrupted := true })
  | some (n + 1) => (true, { s with patience := some n })

mutual

/-- An entry with everything below it in the order of names. -/
def inOrder : Entry → Entry
  | .directory readable t entries => .directory readable t (Disk.inOrder (allInOrder entries))
  | e => e

/-- Entries with everything below them in the order of names. -/
def allInOrder : List (FileName × Entry) → List (FileName × Entry)
  | [] => []
  | (name, e) :: rest => (name, inOrder e) :: allInOrder rest

end

variable [MimeClassifier]

/-- The record of an entry at a path. -/
def recordOf (id : UInt64) (path : String) (e : Entry) : FileRecord :=
  let f := FileRecord.ofPath id path
  let (metaType, size, mimeType) := match e with
    | .file content _ => (MetaType.regular, content.size, MimeClassifier.classify path)
    | .directory .. => (MetaType.directory, 0, none)
    | .link .. => (MetaType.other, 0, none)
  { f with
    metaType, fileType := .localFile, size := UInt64.ofNat size, mimeType
    modified := some e.modified }

/-- Lists an entry. -/
def record (s : Scan) (path : String) (e : Entry) : Scan :=
  { s with files := recordOf (UInt64.ofNat (s.files.length + 1)) path e :: s.files }

mutual

/-- Lists what is below an entry. -/
def below (s : Scan) (path : String) : Entry → Scan
  | .directory true _ entries => all s path entries
  | .directory false _ _ => { s with skipped := s.skipped + 1 }
  | _ => s

/-- Lists entries of a directory and what is below them. -/
def all (s : Scan) (directory : String) : List (FileName × Entry) → Scan
  | [] => s
  | (name, e) :: rest =>
    match s.goOn with
    | (false, s) => s
    | (true, s) =>
      let path := Disk.join directory (Text.Utf8.decodeLossy name)
      all (below (s.record path e) path e) directory rest

end

/-- Lists a root: a file itself, or what is below a directory.  Roots come with what is there, if
anything is. -/
def root (s : Scan) (path : String) : Option Entry → Scan
  | none => { s with skipped := s.skipped + 1 }
  | some e => if e.isDirectory then below s path (inOrder e) else s.record path e

/-- Lists roots one after the other. -/
def roots (s : Scan) : List (String × Option Entry) → Scan
  | [] => s
  | (path, e) :: rest =>
    match s.goOn with
    | (false, s) => s
    | (true, s) => roots (s.root path e) rest

end Scan

/-- What a scan of roots discovers; `patience` is how many entries it looks at before it is
interrupted. -/
def discover [MimeClassifier] (d : Disk) (roots : List String) (patience : Option Nat := none) :
    Discovery :=
  let found := roots.map fun path => (path, (d.find false path).toOption)
  let s := Scan.roots { patience } found
  { files := s.files.reverse, skipped := s.skipped, interrupted := s.interrupted }

end FileTriage
