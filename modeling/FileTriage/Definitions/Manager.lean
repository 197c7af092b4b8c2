/-
The definitions that a program works with: those of a store, together with the shipped ones.
-/
import FileTriage.Definitions.Reconcile
import FileTriage.Definitions.Standard
import FileTriage.Definitions.Store

namespace FileTriage

/-! ## A directory of shipped sets -/

/-- Whether the name of a file ends in `.toml` after something else. -/
def isTomlName (name : FileName) : Bool :=
  let dot : UInt8 := 0x2E
  let before := name.reverse.dropWhile (· ≠ dot)
  1 < before.length && name.reverse.takeWhile (· ≠ dot) = (Text.Utf8.encode "toml").reverse

/-- The sets that a directory adds to the shipped ones: those of all of its TOML files that can be
read, in the order of their names. -/
def Definitions.ofDirectory (d : Disk) (path : String) : Definitions :=
  match d.locate true path, d.list path with
  | .ok location, .ok entries =>
    (entries.filter fun e => isTomlName e.1).foldl (fun (m : Definitions) e =>
      match d.findFrom location [e.1] >>= Disk.bytesOf with
      | .ok bytes =>
        match ofBytes bytes with
        | .ok sets => m.mergeHighest sets.asStandard
        | .error _ => m
      | .error _ => m) .empty
  | _, _ => .empty

/-- A store, and a directory with more shipped sets if there is one. -/
structure Manager where
  store : Store
  standardDirectory : Option String := none

namespace Manager

/-- The shipped sets, with those of the directory. -/
def standardSets (m : Manager) (d : Disk) : Definitions :=
  match m.standardDirectory with
  | some path => Definitions.shippedSets.mergeHighest (.ofDirectory d path)
  | none => Definitions.shippedSets

/-! ## Files sets -/

/-- The stored files sets. -/
def interestingSets (m : Manager) (d : Disk) : Except StoreError Definitions :=
  m.store.load d .interestingItems

/-- Stores files sets. -/
def saveInterestingSets (m : Manager) (state : Store.State) (sets : Definitions) :
    Except StoreError Unit × Store.State :=
  m.store.save state .interestingItems sets

/-- Brings the stored sets up to date.  A store that cannot be read is reconciled as if it were
empty, and left as it is. -/
def reconcileOnStartup (m : Manager) (state : Store.State) :
    Except StoreError Definitions.Report × Store.State :=
  match m.interestingSets state.disk with
  | .error _ => (.ok (Definitions.reconcile (m.standardSets state.disk) .empty).report, state)
  | .ok user =>
    let r := Definitions.reconcile (m.standardSets state.disk) user
    if r.report.isEmpty then (.ok r.report, state)
    else
      let (saved, state) := m.saveInterestingSets state r.sets
      (saved.map fun () => r.report, state)

/-! ## Filters -/

/-- The shipped filters and those of the user; nothing that is stored takes the place of a shipped
one. -/
def ingestFilters (m : Manager) (d : Disk) : Except StoreError Definitions := do
  let stored ← m.store.load d .ingestFilters
  .ok (Definitions.shippedFilters.entries.foldl (fun (f : Definitions) e => f.insert e.1 e.2)
    (stored.filter fun name _ => !Definitions.isShippedFilterName name))

/-- The filter of a name. -/
def ingestFilter (m : Manager) (d : Disk) (name : String) : Except StoreError (Option FilesSet) :=
  (m.ingestFilters d).map fun filters => filters.get? name

/-- Stores the filters that are not shipped ones. -/
def saveIngestFilters (m : Manager) (state : Store.State) (filters : Definitions) :
    Except StoreError Unit × Store.State :=
  m.store.save state .ingestFilters
    (filters.filter fun name _ => !Definitions.isShippedFilterName name)

end Manager

end FileTriage
