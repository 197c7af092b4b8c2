/-
Files as rules see them.

A `FileRecord` holds the attributes of one file that conditions look at.
-/
import FileTriage.Path
import FileTriage.Time.Instant

namespace FileTriage

/-- What a file is in its file system. -/
inductive MetaType where
  | regular
  | directory
  | virtualDirectory
  | other
deriving DecidableEq, Repr

/-- Where in a data source a file comes from. -/
inductive FileType where
  | fileSystem
  | localFile
  | derived
  | carved
  | slack
  | unallocated
deriving DecidableEq, Repr

/-- Whether the type stands for space that no allocated file takes. -/
def FileType.isUnallocatedSpace : FileType → Bool
  | slack | unallocated => true
  | _ => false

/-- What a look-up among known files has found. -/
inductive KnownStatus where
  | unknown
  | known
  | knownBad
deriving DecidableEq, Repr

/-- The attributes of a file. -/
structure FileRecord where
  id : UInt64
  name : String
  /-- The extension in lower case, without its dot. -/
  extension : String
  /-- The path of the directory that holds the file. -/
  parentPath : String
  metaType : MetaType := .regular
  fileType : FileType := .fileSystem
  mimeType : Option String := none
  size : UInt64 := 0
  modified : Option Instant := none
  known : KnownStatus := .unknown
deriving DecidableEq, Repr

namespace FileRecord

/-- The parent path and the name that a path is made of. -/
def splitPath (path : List Char) : List Char × List Char :=
  let path := Path.unifySeparators path
  let before := Path.beforeLast path
  let parent := if before.head? = some '/' then before else '/' :: before
  (parent, Path.lastComponent path)

/-- A regular file at a path. -/
def ofPath (id : UInt64) (path : String) : FileRecord :=
  let (parent, name) := splitPath path.toList
  let name := String.ofList name
  { id, name, extension := Path.extensionOf name, parentPath := String.ofList parent }

/-- The parent path and the name as one path. -/
def fullPath (f : FileRecord) : String :=
  String.ofList (Path.dropTrailing '/' f.parentPath.toList) ++ "/" ++ f.name

end FileRecord

end FileTriage
