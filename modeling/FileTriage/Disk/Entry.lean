/-
What a disk holds: files, symbolic links and directories of them.

Names are bytes, because nothing makes them be text.  `Entry.at?` looks down a path of names and
`Entry.put` changes what is at its end.
-/
import FileTriage.Time.Instant

namespace FileTriage

/-- The name of an entry of a directory. -/
abbrev FileName := List UInt8

/-- What is in a file. -/
inductive Content where
  | bytes (b : List UInt8)
  /-- So many zero bytes. -/
  | zeros (count : Nat)
deriving BEq, Repr

namespace Content

/-- How many bytes there are. -/
def size : Content → Nat
  | bytes b => b.length
  | zeros count => count

/-- All of the bytes. -/
def toList : Content → List UInt8
  | bytes b => b
  | zeros count => List.replicate count 0

end Content

/-- What stands under a name, and when it was last changed. -/
inductive Entry where
  | file (content : Content) (modified : Instant)
  | link (target : List UInt8) (modified : Instant)
  | directory (readable : Bool) (modified : Instant) (entries : List (FileName × Entry))
deriving Inhabited

namespace Entry

/-- Whether the entry is a directory. -/
def isDirectory : Entry → Bool
  | directory .. => true
  | _ => false

/-- When the entry was last changed. -/
def modified : Entry → Instant
  | file _ t | link _ t | directory _ t _ => t

/-- The entries of a directory. -/
def entries : Entry → List (FileName × Entry)
  | directory _ _ entries => entries
  | _ => []

/-- What stands under a name. -/
def child? (e : Entry) (name : FileName) : Option Entry :=
  (e.entries.find? fun c => c.1 = name).map (·.2)

/-- What is at the end of a path of names. -/
def at? (e : Entry) : List FileName → Option Entry
  | [] => some e
  | name :: path => (e.child? name).bind fun c => c.at? path

/-- Puts an entry under a name, or takes it away. -/
def setChild (e : Entry) (name : FileName) (now : Instant) (new : Option Entry) : Entry :=
  match e, new with
  | directory readable _ entries, some new =>
    if entries.any fun c => c.1 = name then
      directory readable now (entries.map fun c => if c.1 = name then (name, new) else c)
    else directory readable now (entries ++ [(name, new)])
  | directory readable _ entries, none =>
    directory readable now (entries.filter fun c => c.1 ≠ name)
  | e, _ => e

/-- Changes the entry under a name. -/
def changeChild (e : Entry) (name : FileName) (change : Entry → Entry) : Entry :=
  match e with
  | directory readable t entries =>
    directory readable t (entries.map fun c => if c.1 = name then (name, change c.2) else c)
  | e => e

/-- Puts an entry at the end of a path of names, or takes away what is there. -/
def put (e : Entry) (now : Instant) (new : Option Entry) : List FileName → Entry
  | [] => e
  | [name] => e.setChild name now new
  | name :: path => e.changeChild name fun c => c.put now new path

end Entry

end FileTriage
