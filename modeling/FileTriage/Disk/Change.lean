/-
What has to be done to a disk so that it becomes another one.

Directories come before what is in them.  Nothing is ever taken away, and links stay as they are.
-/
import FileTriage.Disk.Basic

namespace FileTriage

/-- One thing to do to a disk, at the end of names that lead to no link. -/
inductive Change where
  | makeDirectory (path : List FileName)
  | writeFile (path : List FileName) (bytes : List UInt8)
deriving DecidableEq, Repr

/-- Where a change is made. -/
def Change.path : Change → List FileName
  | makeDirectory path | writeFile path _ => path

namespace Entry

/-- Whether the entry is a file with a content. -/
def holds (e : Entry) (content : Content) : Bool :=
  match e with
  | file c _ => c == content
  | _ => false

mutual

/-- What makes the entry at a path become another one. -/
def changes (path : List FileName) (before : Option Entry) : Entry → List Change
  | directory _ _ entries =>
    (if before.any isDirectory then [] else [.makeDirectory path]) ++
      entriesChanges path before entries
  | file content _ =>
    if before.any fun e => e.holds content then [] else [.writeFile path content.toList]
  | link .. => []

/-- What makes the entries of the directory at a path become others. -/
def entriesChanges (path : List FileName) (before : Option Entry) :
    List (FileName × Entry) → List Change
  | [] => []
  | (name, e) :: rest =>
    changes (path ++ [name]) (before.bind fun b => b.child? name) e ++
      entriesChanges path before rest

end

end Entry

/-- What makes a disk become another one. -/
def Disk.changesTo (before after : Disk) : List Change :=
  after.root.changes [] (some before.root)

end FileTriage
