/-
Bringing a user's definitions up to date with shipped ones.

A shipped set that the user does not have is added, and of two versions of a set the higher one
stays.  Where a user's own set has the name of a shipped one, it moves to a name with the suffix
` (Custom)`, so no set of the user is ever dropped.  What was done is reported beside the result.
-/
import FileTriage.Definitions.Basic

namespace FileTriage.Definitions

/-- A set of which the version has changed. -/
structure VersionChange where
  name : String
  before : UInt32
  after : UInt32
deriving DecidableEq, Repr

/-- A set that has moved to another name. -/
structure Renaming where
  before : String
  after : String
deriving DecidableEq, Repr

/-- What reconciling has changed. -/
structure Report where
  added : List String := []
  upgraded : List VersionChange := []
  renamed : List Renaming := []
deriving DecidableEq, Repr

/-- Whether nothing has changed. -/
def Report.isEmpty (r : Report) : Bool :=
  r.added.isEmpty && r.upgraded.isEmpty && r.renamed.isEmpty

/-! ## Free names -/

/-- What is added to the name of a set that makes room for a shipped one. -/
def customSuffix : String := " (Custom)"

/-- The first of `candidate`, `candidate (Custom)`, … that is not taken, among so many and one. -/
def freeKeyFrom (taken : Definitions) : Nat → String → String
  | 0, candidate => candidate
  | n + 1, candidate =>
    if taken.contains candidate then freeKeyFrom taken n (candidate ++ customSuffix)
    else candidate

/-- The key with the suffix as often as it takes to be free. -/
def freeKey (taken : Definitions) (key : String) : String :=
  freeKeyFrom taken taken.size (key ++ customSuffix)

theorem allBlank_append_customSuffix (s : String) :
    Text.allBlank (s ++ customSuffix) = false := by
  have h : customSuffix.toList.all Text.isBlank = false := by decide
  simp [Text.allBlank, String.toList_append, h]

theorem allBlank_freeKeyFrom (taken : Definitions) (n : Nat) (candidate : String)
    (h : Text.allBlank candidate = false) :
    Text.allBlank (freeKeyFrom taken n candidate) = false := by
  induction n generalizing candidate with
  | zero => exact h
  | succ n ih =>
    rw [freeKeyFrom]
    split
    · exact ih _ (allBlank_append_customSuffix candidate)
    · exact h

theorem allBlank_freeKey (taken : Definitions) (key : String) :
    Text.allBlank (freeKey taken key) = false :=
  allBlank_freeKeyFrom taken taken.size _ (allBlank_append_customSuffix key)

/-! ## Reconciling -/

/-- Definitions on their way up to date, and what has been changed so far. -/
structure Reconciled where
  sets : Definitions
  report : Report := {}
deriving DecidableEq

/-- Makes room for a shipped set under a key: the other set moves to a free key. -/
def Reconciled.makeRoom (r : Reconciled) (key : String) (shipped other : FilesSet) : Reconciled :=
  let free := freeKey r.sets key
  { sets := (r.sets.insert free (other.withName free (allBlank_freeKey r.sets key))).insert key shipped
    report := { r.report with renamed := r.report.renamed ++ [⟨key, free⟩] } }

/-- Takes one set in. -/
def Reconciled.take (r : Reconciled) (key : String) (incoming : FilesSet) : Reconciled :=
  match r.sets.get? key with
  | none =>
    { sets := r.sets.insert key incoming
      report := { r.report with added := r.report.added ++ [key] } }
  | some existing =>
    if existing.standard ≠ incoming.standard then
      if incoming.standard then r.makeRoom key incoming existing
      else r.makeRoom key existing incoming
    else if incoming.version ≤ existing.version then r
    else
      { sets := r.sets.insert key incoming
        report := { r.report with
          upgraded := r.report.upgraded ++ [⟨key, existing.version, incoming.version⟩] } }

/-- A user's sets with shipped ones taken in, in the order of their keys, and what has changed. -/
def reconcile (shipped user : Definitions) : Reconciled :=
  shipped.entries.foldl (fun r (key, s) => r.take key s) { sets := user }

end FileTriage.Definitions
