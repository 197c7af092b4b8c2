/-
What the program reports: files sets in short, and the results of a scan.
-/
import FileTriage.Data.Decoding
import FileTriage.Job.Hit
import FileTriage.Rules.FilesSet

namespace FileTriage

open Value (text bool nat list table)

/-! ## Files sets -/

/-- A rule in short. -/
structure RuleSummary where
  name : String
  conditions : List String
deriving DecidableEq, Repr

/-- A files set in short. -/
structure SetSummary where
  name : String
  description : String
  standard : Bool
  version : UInt32
  ignoreKnownFiles : Bool
  ignoreUnallocatedSpace : Bool
  rules : List RuleSummary
deriving DecidableEq, Repr

namespace SetSummary

/-- A files set in short. -/
def ofSet (s : FilesSet) : SetSummary :=
  { name := s.name, description := s.description, standard := s.standard, version := s.version
    ignoreKnownFiles := s.ignoreKnownFiles, ignoreUnallocatedSpace := s.ignoreUnallocatedSpace
    rules := s.rules.values.map fun r => ⟨r.name, r.conditions.map Condition.describe⟩ }

/-- The written form of a summary; an empty description is left out. -/
def toValue (s : SetSummary) : Value :=
  table (("name", text s.name) ::
    (if s.description.isEmpty then [] else [("description", text s.description)]) ++
    [("standard", bool s.standard), ("version", nat s.version.toNat),
     ("ignore_known_files", bool s.ignoreKnownFiles),
     ("ignore_unallocated_space", bool s.ignoreUnallocatedSpace),
     ("rules", list (s.rules.map fun r =>
        table [("name", text r.name), ("conditions", list (r.conditions.map text))]))])

end SetSummary

/-! ## Scans -/

/-- A hit in short. -/
structure HitRecord where
  path : String
  set : String
  rule : String
deriving DecidableEq, Repr

namespace HitRecord

/-- A hit in short. -/
def ofHit (h : Hit) : HitRecord := ⟨h.path, h.set, h.rule⟩

/-- The written form of a hit. -/
def toValue (h : HitRecord) : Value :=
  table [("path", text h.path), ("set", text h.set), ("rule", text h.rule)]

/-- Whether one hit comes before another, by path and then by set, or is not told apart. -/
def le (a b : HitRecord) : Bool := a.path < b.path || (a.path = b.path && a.set ≤ b.set)

/-- Hits by path and then by set; those that are not told apart stay in the order in which they
came. -/
def inOrder (hits : List HitRecord) : List HitRecord := hits.mergeSort le

end HitRecord

/-- What a scan has counted. -/
structure ScanSummary where
  discovered : UInt64
  examined : UInt64
  filteredOut : UInt64
  hits : UInt64
  errors : UInt64
  skipped : UInt64
  milliseconds : UInt64 := 0
  interrupted : Option Bool := none
deriving DecidableEq, Repr

namespace ScanSummary

/-- The written form of a summary. -/
def toValue (s : ScanSummary) : Value :=
  table ([("discovered", nat s.discovered.toNat), ("examined", nat s.examined.toNat),
    ("filtered_out", nat s.filteredOut.toNat), ("hits", nat s.hits.toNat),
    ("errors", nat s.errors.toNat), ("skipped_unreadable", nat s.skipped.toNat),
    ("duration_ms", nat s.milliseconds.toNat)] ++
    match s.interrupted with
    | some b => [("interrupted", bool b)]
    | none => [])

/-- The names of the fields that hold numbers. -/
def numberNames : List String :=
  ["discovered", "examined", "filtered_out", "hits", "errors", "skipped_unreadable", "duration_ms"]

/-- The fields of a summary as they are collected. -/
structure Draft where
  numbers : List (String × UInt64) := []
  interrupted : Option (Option Bool) := none

/-- Adds a field to a draft. -/
def Draft.set (name : String) (v : Value) (d : Draft) : Except DataFault Draft :=
  if name = "interrupted" then
    (Value.fill d.interrupted (v.asOption Value.asBool)).map ({ d with interrupted := · })
  else
    match d.numbers.lookup name with
    | some _ => .error .mismatch
    | none => v.asWord64.map fun n => { d with numbers := (name, n) :: d.numbers }

/-- Reads a summary.  Only a table may leave out whether the scan was interrupted. -/
def ofValue (v : Value) : Except DataFault ScanSummary := do
  let c ← Value.collect ⟨numberNames ++ ["interrupted"], Draft.set⟩ (.error .malformed) {} v
  let number (name : String) : Except DataFault UInt64 := c.require name (c.draft.numbers.lookup name)
  let discovered ← number "discovered"
  let examined ← number "examined"
  let filteredOut ← number "filtered_out"
  let hits ← number "hits"
  let errors ← number "errors"
  let skipped ← number "skipped_unreadable"
  let milliseconds ← number "duration_ms"
  let interrupted ← match c.draft.interrupted, c.missing "interrupted" with
    | none, .mismatch => .error .mismatch
    | slot, _ => .ok slot.join
  .ok { discovered, examined, filteredOut, hits, errors, skipped, milliseconds, interrupted }

end ScanSummary

/-- The results of a scan. -/
structure ScanOutput where
  filter : String
  sets : List String
  hits : List HitRecord
  summary : ScanSummary
deriving DecidableEq, Repr

/-- The written form of the results. -/
def ScanOutput.toValue (o : ScanOutput) : Value :=
  table [("ingest_filter", text o.filter), ("sets", list (o.sets.map text)),
    ("hits", list (o.hits.map HitRecord.toValue)), ("summary", o.summary.toValue)]

end FileTriage
