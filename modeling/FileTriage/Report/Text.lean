/-
Reports for people to read.
-/
import FileTriage.Definitions.Reconcile
import FileTriage.NameMap
import FileTriage.Report.Summary
import FileTriage.Text.Lower

namespace FileTriage

/-- Lines of text, each with its end. -/
def unlines (lines : List String) : String := String.join (lines.map (· ++ "\n"))

/-- A line, if there is something to say. -/
def lineIf (b : Bool) (line : String) : List String := if b then [line] else []

/-! ## Scans -/

/-- A duration: in milliseconds up to a second, and then in seconds with two places. -/
def durationText (milliseconds : Nat) : String :=
  if milliseconds < 1000 then s!"{milliseconds}ms"
  else
    let hundredths := (milliseconds + 4) / 10
    let places := toString (hundredths % 100)
    s!"{hundredths / 100}." ++ "".pushn '0' (2 - places.length) ++ places ++ "s"

/-- A summary of a scan. -/
def ScanSummary.lines (s : ScanSummary) (filter : String) : List String :=
  ["Scan Summary:", s!"  Ingest filter: {filter}",
   s!"  Discovered: {s.discovered.toNat} entries", s!"  Examined: {s.examined.toNat} entries"] ++
  lineIf (0 < s.filteredOut) s!"  Filtered out: {s.filteredOut.toNat} entries" ++
  [s!"  Hits: {s.hits.toNat}"] ++
  lineIf (0 < s.skipped) s!"  Skipped (unreadable): {s.skipped.toNat} entries" ++
  lineIf (0 < s.errors) s!"  Errors: {s.errors.toNat}" ++
  [s!"  Duration: {durationText s.milliseconds.toNat}"] ++
  lineIf (s.interrupted = some true) "  Status: Interrupted by user"

/-- The hits of a set. -/
def setLines (set : String) (hits : List HitRecord) : List String :=
  s!"{set}:" :: (hits.filter fun h => h.set = set).map (fun h => s!"  {h.path} ({h.rule})") ++ [""]

/-- The results of a scan; hits are shown set by set. -/
def ScanOutput.lines (o : ScanOutput) : List String :=
  let sets := (NameSet.ofList (o.hits.map (·.set))).names
  let found :=
    if o.hits.isEmpty then ["No interesting files found."]
    else
      [s!"Found {o.hits.length} interesting files in {sets.length} sets:", ""] ++
        sets.flatMap fun set => setLines set (o.hits.mergeSort fun a b => a.path ≤ b.path)
  found ++ o.summary.lines o.filter

/-! ## Files sets -/

/-- A set with its rules. -/
def SetSummary.lines (s : SetSummary) : List String :=
  let origin := if s.standard then s!"standard, v{s.version.toNat}" else "custom"
  [s!"{s.name} [{origin}]"] ++
  lineIf (!s.description.isEmpty) s!"  {s.description}" ++
  lineIf s.ignoreKnownFiles "  ignores known files" ++
  lineIf s.ignoreUnallocatedSpace "  ignores unallocated space" ++
  s.rules.map (fun r =>
    let conditions := ", ".intercalate r.conditions
    s!"  - {r.name}: {conditions}") ++
  [""]

/-- A list of sets under a heading. -/
def listingLines (heading : String) (sets : List SetSummary) : List String :=
  if sets.isEmpty then [s!"No {Text.lower heading} defined."]
  else [s!"{heading} ({sets.length}):", ""] ++ sets.flatMap SetSummary.lines

/-- What reconciling has changed. -/
def Definitions.Report.lines (r : Definitions.Report) : List String :=
  if r.isEmpty then ["Standard sets are up to date."]
  else
    r.added.map (fun name => s!"Added standard set: {name}") ++
    r.upgraded.map (fun c => s!"Upgraded {c.name}: v{c.before.toNat} -> v{c.after.toNat}") ++
    r.renamed.map (fun c => s!"Renamed custom set: {c.before} -> {c.after}")

end FileTriage
