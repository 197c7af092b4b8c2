/-
Collections of files sets under their names.
-/
import FileTriage.Rules.FilesSet

namespace FileTriage

/-- Files sets under keys, which are meant to be their names. -/
abbrev Definitions := NameMap FilesSet

namespace Definitions

/-- The first set that stands under another key than its name. -/
def misplaced? (sets : Definitions) : Option (String × FilesSet) :=
  sets.entries.find? fun e => e.1 ≠ e.2.name

/-- Sets under their names; a name that occurs twice is refused. -/
def ofSets (sets : List FilesSet) : Except String Definitions :=
  sets.foldlM (fun (m : Definitions) s =>
    if m.contains s.name then .error s.name else .ok (m.insert s.name s)) .empty

/-- The sets with more sets added; under a key that both have, the higher version stays, and of two
sets with one version the one that was there before. -/
def mergeHighest (sets incoming : Definitions) : Definitions :=
  incoming.entries.foldl (fun (m : Definitions) (key, s) =>
    match m.get? key with
    | some existing => if s.version ≤ existing.version then m else m.insert key s
    | none => m.insert key s) sets

/-- All sets as shipped ones. -/
def asStandard (sets : Definitions) : Definitions := sets.map FilesSet.asStandard

end Definitions

end FileTriage
