/-
The sets that a scan announces and the sets that it applies.

A scan makes out twice which sets it is about: once from the names that the sets are stored under,
for the report, and once from the names of the sets themselves, when the first worker takes the
snapshot of the job.  Whatever is loaded stands under its own name, so both come to the same sets in
the same order, whatever the settings (`Definitions.Named.filter_keys`).  Of the selections only what
they leave out counts, so a set that nobody knew of when the settings were made is applied.
-/
import FileTriage.CommandLine.Run
import FileTriage.Proofs.Definitions.Filters
import FileTriage.Proofs.Definitions.History
import FileTriage.Proofs.Definitions.Startup
import FileTriage.Proofs.Job.Posting
import FileTriage.Proofs.Job.Schedule

namespace FileTriage

/-! ## Selections -/

namespace Selection

variable {selection name : String} {selections : List String}

/-- A selection stands for a name: it is a pattern that matches the name, or no pattern and the
name. -/
def StandsFor (selection name : String) : Prop :=
  if isPattern selection then ∃ g, Glob.parse selection = .ok g ∧ g.isMatch name = true
  else name = selection

/-- A selection that can be read selects the names that it stands for. -/
theorem selects_iff (h : refusal? selection = none) :
    selects selection name = true ↔ StandsFor selection name := by
  rw [refusal?] at h
  rw [selects, StandsFor]
  cases hpattern : isPattern selection with
  | false => simp
  | true =>
    rw [hpattern] at h
    cases hparse : Glob.parse selection with
    | error e =>
      rw [hparse] at h
      cases h
    | ok g => simp

theorem validate_eq_ok_iff :
    validate selections = .ok () ↔ ∀ s ∈ selections, refusal? s = none := by
  rw [← List.findSome?_eq_none_iff, validate]
  cases selections.findSome? refusal? with
  | none => simp
  | some r => simp

/-- Selections that can be read select everything if there are none, and else the names that one of
them stands for. -/
theorem anySelects_iff (h : validate selections = .ok ()) :
    anySelects selections name = true ↔
      selections = [] ∨ ∃ s ∈ selections, StandsFor s name := by
  rw [anySelects, Bool.or_eq_true, List.isEmpty_iff, List.any_eq_true]
  refine or_congr_right (exists_congr fun s => and_congr_right fun hs => ?_)
  exact selects_iff (validate_eq_ok_iff.1 h s hs)

end Selection

/-! ## Settings -/

theorem NameSet.contains_ofList_iff (names : List String) (name : String) :
    (NameSet.ofList names).contains name = true ↔ name ∈ names := by
  rw [contains, List.contains_iff_mem]
  show name ∈ (NameMap.ofList (names.map fun n => (n, ()))).keys ↔ _
  rw [NameMap.mem_keys_ofList_iff, List.map_map]
  exact iff_of_eq (congrArg (name ∈ ·) (List.map_id names))

namespace JobSettings

variable {picks : String → Bool} {available : List String} {name : String}

/-- Settings that turn on the names that are picked, and off the others. -/
def ofPicked (picks : String → Bool) (available : List String) : JobSettings :=
  ofNames (available.filter picks) (available.filter fun name => !picks name)

theorem ofSelection_eq (selections available : List String) :
    ofSelection selections available = ofPicked (Selection.anySelects selections) available := by
  rw [ofSelection, List.partition_eq_filter_filter]
  rfl

/-- A name is left on unless it was there and was not picked. -/
theorem isEnabled_ofPicked :
    (ofPicked picks available).isEnabled name = true ↔ (name ∈ available → picks name = true) := by
  rw [isEnabled, Bool.not_eq_true', ← Bool.not_eq_true]
  show ¬ (NameSet.ofList _).contains name = true ↔ _
  rw [NameSet.contains_ofList_iff, List.mem_filter]
  simp

end JobSettings

/-! ## Snapshots -/

/-- Where sets stand under their names, the keys that are kept are the names of the sets that are
kept, in the same order. -/
theorem Definitions.Named.filter_keys {sets : Definitions} (h : sets.Named)
    (keep : String → Bool) :
    sets.keys.filter keep = (sets.values.filter fun s => keep s.name).map (·.name) := by
  have hkeys : sets.keys = sets.values.map (·.name) := by
    rw [NameMap.keys, NameMap.values, List.map_map]
    exact List.map_congr_left fun e he => (h e he).symm
  rw [hkeys, List.filter_map]
  rfl

/-! ## Hits -/

namespace JobSpec

variable {spec : JobSpec} {s : JobSnapshot} {w : Worker} {workers : List Worker} {p : Workplace}

/-- All hits of the case are of sets of the snapshot. -/
def OnlyOf (s : JobSnapshot) (c : CaseFile) : Prop := ∀ h ∈ c.hits, h.set ∈ s.sets.map (·.name)

theorem onlyOf_process (hjob : w.job = some s) (h : OnlyOf s p.caseFile) (f : FileRecord)
    (now : Instant) : OnlyOf s (w.process p f now).2.caseFile := by
  cases hopen : p.caseFile.isOpen with
  | false =>
    rw [Worker.process_of_closed hjob hopen]
    exact h
  | true =>
    rw [Worker.process_of_open hjob hopen, Workplace.caseFile_postAll_eq]
    intro g hg
    rcases List.mem_append.1 hg with hg | hg
    · exact h g hg
    · obtain ⟨-, set, hset, rule, -, rfl⟩ :=
        mem_hits_iff.1 ((CaseFile.taken_sublist _ _).subset hg)
      exact List.mem_map_of_mem hset

theorem onlyOf_handle (hworkers : ∀ w ∈ workers, w.job = some s) (now : Instant)
    {state : JobStats × Workplace} (h : OnlyOf s state.2.caseFile) (step : Step) :
    OnlyOf s (spec.handle workers now state step).2.caseFile := by
  obtain ⟨stats, p⟩ := state
  rw [handle]
  dsimp only
  split
  · exact h
  · split
    · exact h
    · split
      · exact h
      · next w hw => exact onlyOf_process (hworkers w (List.mem_of_getElem? hw)) h step.file now

/-- A run whose first worker finds definitions succeeds on whatever schedule, and finds nothing
that is not of a set of its snapshot. -/
theorem runOn_onlyOf (hworkers : areWorkersInLimits spec.workers = true)
    (hstart : (p.table.start spec.job spec.settings).1 = .ok s) (h : OnlyOf s p.caseFile)
    (logger : EventLogger) (schedule : List Step) (interrupted : Bool) (now : Instant) :
    ∃ stats p', spec.runOn logger schedule interrupted now p = (.ok stats, p') ∧
      OnlyOf s p'.caseFile := by
  obtain ⟨p₁, hjoin, hcase⟩ := joinAll_of_start hstart logger spec.workers
  set members : List Worker :=
    List.replicate spec.workers { settings := spec.settings, logger, job := some s } with hmembers
  have hjobs : ∀ w ∈ members, w.job = some s := by
    intro w hw
    rw [List.eq_of_mem_replicate hw]
  set ran := schedule.foldl (spec.handle members now) ({}, p₁) with hran
  have hfold : OnlyOf s ran.2.caseFile := by
    refine List.foldlRecOn (motive := fun state : JobStats × Workplace => OnlyOf s state.2.caseFile)
      schedule _ ?_ fun state hstate step _ => onlyOf_handle hjobs now hstate step
    show OnlyOf s p₁.caseFile
    rwa [hcase]
  refine ⟨{ ran.1 with interrupted }, leaveAll members ran.2, ?_, ?_⟩
  · rw [runOn, hworkers, hjoin]
    rfl
  · rwa [caseFile_leaveAll]

end JobSpec

/-! ## Scans -/

namespace Command

variable {c : Configuration} {m : Manager} {d : Disk} {o : ScanOptions} {sets : Definitions}
  {filter : FilesSet}

/-- What workers share at the beginning of a scan: a case without hits, and a table that asks for
the definitions on the disk. -/
def scanPlace (m : Manager) (d : Disk) : Workplace where
  table := { source := { answer := fun _ => m.interestingSets d } }

/-- What a scan is about to do, where it finds sets and its filter. -/
def scanPlan (c : Configuration) (o : ScanOptions) (job : UInt64) (sets : Definitions)
    (filter : FilesSet) : ScanPlan :=
  let settings := JobSettings.ofSelection o.selections sets.keys
  { spec := { job, settings, filter, workers := o.workers.getD c.workers }
    filterName := o.filter.getD c.filter
    applied := sets.keys.filter settings.isEnabled }

theorem planScan_eq (hsets : m.interestingSets d = .ok sets)
    (hfilter : m.ingestFilter d (o.filter.getD c.filter) = .ok (some filter)) (job : UInt64) :
    planScan c m d o job = .ok (scanPlan c o job sets filter) := by
  rw [planScan, hfilter, hsets]
  rfl

/-- A scan whose job has been run reports what has been found. -/
theorem runScan_of_run [MimeClassifier] {job : UInt64} {now : Instant} {plan : ScanPlan}
    {found : Discovery} {stats : JobStats} {p : Workplace}
    (hplan : planScan c m (reconcileQuietly m d) o job = .ok plan)
    (hfound : discover (reconcileQuietly m d) (if o.paths.isEmpty then ["."] else o.paths) = found)
    (hrun : plan.spec.run {} found.files found.interrupted now
      (scanPlace m (reconcileQuietly m d)) = (.ok stats, p)) :
    (runScan c m d o job now).result =
      .ok (.scan (scanOutput plan found stats p.caseFile.hits) o.json) := by
  rw [scanPlace] at hrun
  rw [runScan, hplan, hfound]
  simp only
  rw [hrun]

/-- What a scan announces, and what it does. -/
structure AppliesAnnounced [MimeClassifier] (c : Configuration) (m : Manager) (d : Disk)
    (o : ScanOptions) (job : UInt64) (now : Instant) (sets : Definitions) (plan : ScanPlan) :
    Prop where
  planned : planScan c m (reconcileQuietly m d) o job = .ok plan
  /-- The names that are announced are those of the sets of the snapshot that the job takes, in the
  same order. -/
  applied : ∃ s,
    ((scanPlace m (reconcileQuietly m d)).table.start job plan.spec.settings).1 = .ok s ∧
      plan.applied = s.sets.map (·.name)
  /-- A stored set is announced if there are no selections or one stands for its name. -/
  selected : ∀ s ∈ sets.values, s.name ∈ plan.applied ↔
    o.selections = [] ∨ ∃ selection ∈ o.selections, Selection.StandsFor selection s.name
  /-- The scan reports these names, and hits of these sets alone. -/
  reported : ∃ output, (runScan c m d o job now).result = .ok (.scan output o.json) ∧
    output.sets = plan.applied ∧ ∀ h ∈ output.hits, h.set ∈ output.sets
  /-- It would do so on any other schedule, interrupted or not. -/
  on_schedules : ∀ logger schedule interrupted found, ∃ stats p,
    plan.spec.runOn logger schedule interrupted now (scanPlace m (reconcileQuietly m d)) =
      (.ok stats, p) ∧
    ∀ h ∈ (scanOutput plan found stats p.caseFile.hits).hits, h.set ∈ plan.applied

theorem onlyOf_scanOutput {s : JobSnapshot} {p : Workplace} (h : JobSpec.OnlyOf s p.caseFile)
    (plan : ScanPlan) (found : Discovery) (stats : JobStats) :
    ∀ r ∈ (scanOutput plan found stats p.caseFile.hits).hits, r.set ∈ s.sets.map (·.name) := by
  intro r hr
  obtain ⟨g, hg, rfl⟩ := List.mem_map.1 ((List.mergeSort_perm _ _).mem_iff.1 hr)
  exact h g hg

theorem appliesAnnounced [MimeClassifier]
    (hsets : m.interestingSets (reconcileQuietly m d) = .ok sets)
    (hfilter : m.ingestFilter (reconcileQuietly m d) (o.filter.getD c.filter) = .ok (some filter))
    (hvalid : Selection.validate o.selections = .ok ())
    (hworkers : areWorkersInLimits (o.workers.getD c.workers) = true) (job : UInt64)
    (now : Instant) : AppliesAnnounced c m d o job now sets (scanPlan c o job sets filter) := by
  have hnamed : sets.Named := Store.named_of_load hsets
  set plan := scanPlan c o job sets filter
  have hplanned : planScan c m (reconcileQuietly m d) o job = .ok plan :=
    planScan_eq hsets hfilter job
  -- the second load gives what the first one has given
  have hstart : ((scanPlace m (reconcileQuietly m d)).table.start plan.spec.job
      plan.spec.settings).1 = .ok (plan.spec.snapshot sets) :=
    JobTable.start_of_answer rfl hsets plan.spec.settings
  have happlied : plan.applied = (plan.spec.snapshot sets).sets.map (·.name) :=
    hnamed.filter_keys plan.spec.settings.isEnabled
  have hnone : JobSpec.OnlyOf (plan.spec.snapshot sets)
      (scanPlace m (reconcileQuietly m d)).caseFile := fun g hg => absurd hg List.not_mem_nil
  have hruns : ∀ logger schedule interrupted found, ∃ stats p,
      plan.spec.runOn logger schedule interrupted now (scanPlace m (reconcileQuietly m d)) =
        (.ok stats, p) ∧
      ∀ h ∈ (scanOutput plan found stats p.caseFile.hits).hits, h.set ∈ plan.applied := by
    intro logger schedule interrupted found
    obtain ⟨stats, p, hrun, honly⟩ :=
      JobSpec.runOn_onlyOf hworkers hstart hnone logger schedule interrupted now
    exact ⟨stats, p, hrun, happlied ▸ onlyOf_scanOutput honly plan found stats⟩
  refine ⟨hplanned, ⟨_, hstart, happlied⟩, ?_, ?_, hruns⟩
  · intro s hs
    have hkey : s.name ∈ sets.keys := by
      obtain ⟨e, he, rfl⟩ := List.mem_map.1 hs
      exact List.mem_map.2 ⟨e, he, (hnamed e he).symm⟩
    rw [← Selection.anySelects_iff hvalid]
    show s.name ∈ sets.keys.filter (JobSettings.isEnabled (.ofSelection o.selections sets.keys)) ↔ _
    rw [List.mem_filter, and_iff_right hkey, JobSettings.ofSelection_eq,
      JobSettings.isEnabled_ofPicked]
    exact ⟨fun h => h hkey, fun h _ => h⟩
  · set found := discover (reconcileQuietly m d) (if o.paths.isEmpty then ["."] else o.paths)
      with hfound
    obtain ⟨stats, p, hrun, hhits⟩ := hruns {}
      (JobSpec.inTurn plan.spec.workers found.files found.interrupted) found.interrupted found
    exact ⟨_, runScan_of_run hplanned hfound.symm hrun, rfl, hhits⟩

/-- The sets that a scan announces are those that it applies: whatever is in the store, whatever
valid selections are given, and on whichever schedule the job is run.  The announced names are made
out from the keys of the store and the applied sets from their own names; both agree for any
settings whatever.  Settings that are made of a list of names, by whichever predicate, leave on
every name that is not in the list. -/
theorem scan_applies_announced_sets [MimeClassifier]
    (hsets : m.interestingSets (reconcileQuietly m d) = .ok sets)
    (hfilter : m.ingestFilter (reconcileQuietly m d) (o.filter.getD c.filter) = .ok (some filter))
    (hvalid : Selection.validate o.selections = .ok ())
    (hworkers : areWorkersInLimits (o.workers.getD c.workers) = true) (job : UInt64)
    (now : Instant) :
    (∃ plan, AppliesAnnounced c m d o job now sets plan) ∧
    (∀ settings, ∃ s,
      ((scanPlace m (reconcileQuietly m d)).table.start job settings).1 = .ok s ∧
        sets.keys.filter settings.isEnabled = s.sets.map (·.name)) ∧
    (∀ selections available name, name ∉ available →
      (JobSettings.ofSelection selections available).isEnabled name = true) ∧
    ∀ picks available name, (JobSettings.ofPicked picks available).isEnabled name = true ↔
      (name ∈ available → picks name = true) := by
  have hnamed : sets.Named := Store.named_of_load hsets
  -- the second load gives what the first one has given
  have hstart : ∀ settings : JobSettings,
      ((scanPlace m (reconcileQuietly m d)).table.start job settings).1 =
        .ok ⟨job, sets.values.filter fun s => settings.isEnabled s.name⟩ :=
    fun settings => JobTable.start_of_answer rfl hsets settings
  refine ⟨⟨scanPlan c o job sets filter, ?_⟩, ?_, ?_, fun _ _ _ => JobSettings.isEnabled_ofPicked⟩
  · exact appliesAnnounced hsets hfilter hvalid hworkers job now
  · intro settings
    exact ⟨_, hstart settings, hnamed.filter_keys settings.isEnabled⟩
  · intro selections available name hname
    rw [JobSettings.ofSelection_eq, JobSettings.isEnabled_ofPicked]
    exact fun hmem => absurd hmem hname

/-! ## A store with a set of a user's own -/

/-- The store can be loaded.  It has sets under all names of the user's sets, and these filters. -/
def Loadable (m : Manager) (older : StoreKey → Option (List UInt8)) (user : Definitions)
    (filters : Option Definitions) (d : Disk) : Prop :=
  ∃ last sets, m.store.Remembers older last d ∧ last .ingestFilters = filters ∧
    m.interestingSets d = .ok sets ∧ ∀ k u, user.get? k = some u → ∃ s, sets.get? k = some s

/-- Where the directory of the store is there or can be made, a start leaves a store that can be
loaded. -/
theorem loadable_reconcileOnStartup {older : StoreKey → Option (List UInt8)}
    {last : StoreKey → Option Definitions} {state : Store.State} {user : Definitions}
    (h : m.store.Remembers older last state.disk)
    (huser : m.interestingSets state.disk = .ok user) :
    Loadable m older user (last .ingestFilters) (m.reconcileOnStartup state).2.disk := by
  set r := Definitions.reconcile (m.standardSets state.disk) user
  have hsame : Loadable m older user (last .ingestFilters) state.disk :=
    ⟨last, user, h, rfl, huser, fun k u hu => ⟨u, hu⟩⟩
  by_cases hempty : r.report = {}
  · rw [Manager.reconcileOnStartup_of_empty huser hempty]
    exact hsame
  · cases htext : r.sets.toToml with
    | error cause =>
      have hsave := Store.save_of_error htext m.store state .interestingItems
      rw [Manager.reconcileOnStartup_of_changed huser hempty hsave]
      exact hsame
    | ok text =>
      obtain ⟨disk, hsave, hnext⟩ := h.exists_save .interestingItems htext
      have hload := hnext.load_eq .interestingItems
      rw [Function.update_self] at hload
      rw [Manager.reconcileOnStartup_of_changed huser hempty hsave]
      exact ⟨_, r.sets, hnext, Function.update_of_ne (by decide) _ _, hload,
        fun k u hu => Definitions.exists_get?_reconcile _ hu⟩

/-- A set of a user's own. -/
def pictures : Definitions := .ofNames [("Pictures", false, 0)]

/-- A disk on which it has been stored. -/
def picturesDisk : Disk :=
  (Manager.fresh.saveInterestingSets { disk := {} } pictures).2.disk

/-- A configuration for the store on this disk. -/
def picturesConfiguration : Configuration := { directory := "defs", workers := 2 }

/-- A scan of the sets that a pattern matches. -/
def picturesScan : ScanOptions := { selections := ["Pict*", "Disk Images"] }

theorem parse_picturesPattern :
    Glob.parse "Pict*" = .ok ⟨[.char 'P', .char 'i', .char 'c', .char 't', .anySequence]⟩ := by
  have hchars : "Pict*".toList = ['P', 'i', 'c', 't', '*'] := rfl
  rw [Glob.parse, hchars]
  simp [Glob.parseFrom, Except.map]

theorem loadable_picturesDisk :
    Loadable Manager.fresh (fun _ => none) pictures none
      (reconcileQuietly Manager.fresh picturesDisk) := by
  obtain ⟨text, htext⟩ := Manager.exists_toToml_of_no_rules (f := pictures) (by decide) (by decide)
  let start : Store.State := { disk := {} }
  have hstart : Manager.fresh.store.Remembers (fun _ => none) (fun _ => none) start.disk :=
    Store.remembers_fresh
  obtain ⟨disk, hsave, hnext⟩ := hstart.exists_save .interestingItems htext
  let stored : Store.State := { disk := picturesDisk }
  have hdisk : stored.disk = disk := by
    show picturesDisk = disk
    rw [picturesDisk, Manager.saveInterestingSets, hsave]
  rw [← hdisk] at hnext
  have hload := hnext.load_eq .interestingItems
  rw [Function.update_self] at hload
  have hloadable := loadable_reconcileOnStartup hnext hload
  rwa [Function.update_of_ne (by decide)] at hloadable

/-- The set is announced and applied with those that the program brings along, as far as the
patterns match them. -/
theorem pictures_are_applied :
    ∃ sets filter plan,
      Manager.fresh.interestingSets (reconcileQuietly Manager.fresh picturesDisk) = .ok sets ∧
      Manager.fresh.ingestFilter (reconcileQuietly Manager.fresh picturesDisk)
        Definitions.allFilesName = .ok (some filter) ∧
      AppliesAnnounced picturesConfiguration Manager.fresh picturesDisk picturesScan 7 .epoch sets
        plan ∧
      "Pictures" ∈ plan.applied := by
  obtain ⟨last, sets, hremembers, hfilters, hsets, hkept⟩ := loadable_picturesDisk
  have hstored : Manager.fresh.store.load (reconcileQuietly Manager.fresh picturesDisk)
      .ingestFilters = .ok .empty := by
    rw [hremembers.load_eq, hfilters]
    rfl
  have hfilter : Manager.fresh.ingestFilter (reconcileQuietly Manager.fresh picturesDisk)
      Definitions.allFilesName = .ok (some Definitions.allFilesFilter) := by
    rw [Manager.ingestFilter, Manager.ingestFilters_of_load hstored]
    exact congrArg Except.ok (Definitions.givenWithShipped (by decide)).all_files
  have hvalid : Selection.validate picturesScan.selections = .ok () := by
    refine Selection.validate_eq_ok_iff.2 (List.forall_mem_cons.2 ⟨?_, by decide⟩)
    rw [Selection.refusal?, if_pos (by decide), parse_picturesPattern]
  obtain ⟨⟨plan, hplan⟩, -⟩ := scan_applies_announced_sets (c := picturesConfiguration)
    (o := picturesScan) hsets hfilter hvalid (by decide) 7 .epoch
  refine ⟨sets, _, plan, hsets, hfilter, hplan, ?_⟩
  obtain ⟨s, hs⟩ := hkept "Pictures" _ rfl
  have hname : s.name = "Pictures" := (Store.named_of_load hsets).name_eq hs
  have hmem : s ∈ sets.values := List.mem_map.2 ⟨_, NameMap.get?_eq_some_iff.1 hs, rfl⟩
  have hstands : Selection.StandsFor "Pict*" "Pictures" := by
    rw [Selection.StandsFor, if_pos (by decide)]
    exact ⟨_, parse_picturesPattern, by decide⟩
  rw [← hname, hplan.selected s hmem, hname]
  exact .inr ⟨"Pict*", List.mem_cons_self, hstands⟩

end Command

end FileTriage
