/-
A disk as a value, and what can be done with it.

Paths are text, absolute or relative to a working directory.  Symbolic links are followed, so many
of them at most, and `..` leads up from where a link has led.
-/
import FileTriage.Disk.Entry
import FileTriage.Text.Utf8

namespace FileTriage

/-- Why something cannot be done with a disk. -/
inductive IoFault where
  | notFound
  | notDirectory
  | isDirectory
  | alreadyExists
  | tooManyLinks
  | nameTooLong
  | nulInName
  | notPermitted
  | notUtf8
  | other (text : String)
deriving DecidableEq, Repr

/-- The wording of a fault. -/
def IoFault.message : IoFault → String
  | notFound => "No such file or directory (os error 2)"
  | notDirectory => "Not a directory (os error 20)"
  | isDirectory => "Is a directory (os error 21)"
  | alreadyExists => "File exists (os error 17)"
  | tooManyLinks => "Too many levels of symbolic links (os error 40)"
  | nameTooLong => "File name too long (os error 36)"
  | nulInName => "file name contained an unexpected NUL byte"
  | notPermitted => "Permission denied (os error 13)"
  | notUtf8 => "stream did not contain valid UTF-8"
  | other text => text

/-- A disk: its root directory, the directory that relative paths start from, and the time that
changes are stamped with. -/
structure Disk where
  root : Entry := .directory true .epoch []
  workingDirectory : List FileName := []
  clock : Instant := .epoch

namespace Disk

/-! ## Paths -/

/-- The byte between the components of a path. -/
def separator : UInt8 := 0x2F

/-- The name that stands for the directory itself. -/
def here : FileName := [0x2E]

/-- The name that stands for the directory above. -/
def above : FileName := [0x2E, 0x2E]

/-- The components of a path. -/
def components (path : List UInt8) : List FileName :=
  (path.splitOnP (· = separator)).filter fun name => name ≠ []

/-- The components of a path, with one more that stands for the directory itself if the path ends
in a separator. -/
def steps (path : List UInt8) : List FileName :=
  components path ++ (if path.getLast? = some separator then [here] else [])

/-- Where a path starts from. -/
def start (current : List FileName) (path : List UInt8) : List FileName :=
  if path.head? = some separator then [] else current

/-- How many links are followed on one path. -/
def linkLimit : Nat := 40

/-- How long a name may be. -/
def nameLimit : Nat := 255

/-- The names that lead to the end of a path, with no links among them.  The last of them need not
stand for anything.  `follow` says whether a link at the end is followed. -/
def resolve (root : Entry) (follow : Bool) (links : Nat) (current : List FileName)
    (path : List FileName) : Except IoFault (List FileName) :=
  match path with
  | [] => .ok current
  | name :: rest =>
    if name = here then resolve root follow links current rest
    else if name = above then resolve root follow links current.dropLast rest
    else if nameLimit < name.length then .error .nameTooLong
    else
      match root.at? (current ++ [name]) with
      | none => if rest.isEmpty then .ok (current ++ [name]) else .error .notFound
      | some (.file ..) => if rest.isEmpty then .ok (current ++ [name]) else .error .notDirectory
      | some (.directory ..) => resolve root follow links (current ++ [name]) rest
      | some (.link target _) =>
        if rest.isEmpty && !follow then .ok (current ++ [name])
        else
          match links with
          | 0 => .error .tooManyLinks
          | links + 1 => resolve root follow links (start current target) (steps target ++ rest)
termination_by (links, path.length)

/-- The names that a path leads to. -/
def locate (d : Disk) (follow : Bool) (path : String) : Except IoFault (List FileName) :=
  let bytes := Text.Utf8.encode path
  if bytes.contains 0 then .error .nulInName
  else if bytes.isEmpty then .error .notFound
  else resolve d.root follow linkLimit (start d.workingDirectory bytes) (steps bytes)

/-! ## Looking -/

/-- What a path leads to. -/
def find (d : Disk) (follow : Bool) (path : String) : Except IoFault Entry := do
  match d.root.at? (← d.locate follow path) with
  | some e => .ok e
  | none => .error .notFound

/-- What names lead to from a directory. -/
def findFrom (d : Disk) (current path : List FileName) : Except IoFault Entry := do
  match d.root.at? (← resolve d.root true linkLimit current path) with
  | some e => .ok e
  | none => .error .notFound

/-- Whether a path leads to something. -/
def contains (d : Disk) (path : String) : Bool := (d.find true path).toOption.isSome

/-- Whether a path leads to a directory. -/
def isDirectory (d : Disk) (path : String) : Bool :=
  (d.find true path).toOption.any Entry.isDirectory

/-- The bytes of an entry that is a file. -/
def bytesOf : Entry → Except IoFault (List UInt8)
  | .file content _ => .ok content.toList
  | _ => .error .isDirectory

/-- The bytes of a file. -/
def read (d : Disk) (path : String) : Except IoFault (List UInt8) := do
  bytesOf (← d.find true path)

/-- The text of a file. -/
def readText (d : Disk) (path : String) : Except IoFault String := do
  match Text.Utf8.decode (← d.read path) with
  | .ok text => .ok text
  | .error _ => .error .notUtf8

/-- Whether one name comes before another, byte by byte, or is the same. -/
def nameLe : FileName → FileName → Bool
  | [], _ => true
  | _ :: _, [] => false
  | a :: as, b :: bs => if a = b then nameLe as bs else a < b

/-- Entries in the order of their names. -/
def inOrder (entries : List (FileName × Entry)) : List (FileName × Entry) :=
  entries.mergeSort fun a b => nameLe a.1 b.1

/-- The entries of a directory in the order of their names. -/
def list (d : Disk) (path : String) : Except IoFault (List (FileName × Entry)) := do
  match ← d.find true path with
  | .directory true _ entries => .ok (inOrder entries)
  | .directory false _ _ => .error .notPermitted
  | _ => .error .notDirectory

/-! ## Changing -/

/-- The disk with an entry at the end of names that lead to no link. -/
def put (d : Disk) (location : List FileName) (e : Entry) : Disk :=
  { d with root := d.root.put d.clock (some e) location }

/-- The directory of a path, and the name in it that the path ends in.  Gives no name where the
path ends in a name that stands for a directory that is already there. -/
def locateNew (d : Disk) (path : String) : Except IoFault (List FileName × Option FileName) := do
  let bytes := Text.Utf8.encode path
  if bytes.contains 0 then .error .nulInName
  else if bytes.isEmpty then .error .notFound
  else
    let names := components bytes
    let from_ := start d.workingDirectory bytes
    match names.getLast? with
    | none => .ok ([], none)
    | some name =>
      if name = here ∨ name = above then do
        let location ← resolve d.root true linkLimit from_ names
        .ok (location, none)
      else do
        let parent ← resolve d.root true linkLimit from_ names.dropLast
        if nameLimit < name.length then .error .nameTooLong
        else
          match d.root.at? parent with
          | none => .error .notFound
          | some (.directory ..) => .ok (parent, some name)
          | some _ => .error .notDirectory

/-- The disk with one more directory. -/
def makeDirectory (d : Disk) (path : String) : Except IoFault Disk := do
  match ← d.locateNew path with
  | (_, none) => .error .alreadyExists
  | (parent, some name) =>
    if (d.root.at? (parent ++ [name])).isSome then .error .alreadyExists
    else .ok (d.put (parent ++ [name]) (.directory true d.clock []))

/-- The path of the directory that a path ends in, if the path has more than a root. -/
def parentPath? (path : String) : Option String :=
  let parts := (path.splitToList (· = '/')).filter (· ≠ "")
  let parts := match parts with
    | [] => []
    | first :: rest => first :: rest.filter (· ≠ ".")
  if parts.isEmpty then none
  else
    let up := "/".intercalate parts.dropLast
    some (if path.startsWith "/" then "/" ++ up else up)

/-- Makes a directory and those that lead to it, as far as they are not there; `depth` bounds how
many. -/
def makeDirectoriesTo (depth : Nat) (d : Disk) (path : String) : Except IoFault Disk :=
  if path.isEmpty then .ok d
  else
    let orThere (d : Disk) (made : Except IoFault Disk) : Except IoFault Disk :=
      match made with
      | .ok d => .ok d
      | .error fault => if d.isDirectory path then .ok d else .error fault
    match depth, d.makeDirectory path with
    | depth + 1, .error .notFound =>
      match parentPath? path with
      | none => .error (.other "failed to create whole tree")
      | some parent => do
        let d ← makeDirectoriesTo depth d parent
        orThere d (d.makeDirectory path)
    | _, made => orThere d made

/-- Makes a directory and those that lead to it, as far as they are not there. -/
def makeDirectories (d : Disk) (path : String) : Except IoFault Disk :=
  makeDirectoriesTo path.length d path

/-- Puts a file in the place of whatever is at a path, unless that is a directory. -/
def replaceFile (d : Disk) (path : String) (bytes : List UInt8) : Except IoFault Disk := do
  match ← d.locateNew path with
  | (_, none) => .error .isDirectory
  | (parent, some name) =>
    match d.root.at? (parent ++ [name]) with
    | some (.directory ..) => .error .isDirectory
    | _ => .ok (d.put (parent ++ [name]) (.file (.bytes bytes) d.clock))

/-- A path below a directory. -/
def join (directory name : String) : String :=
  if name.startsWith "/" then name
  else if directory.isEmpty || directory.endsWith "/" then directory ++ name
  else directory ++ "/" ++ name

end Disk

end FileTriage
