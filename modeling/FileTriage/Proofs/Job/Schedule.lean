/-
A run of a job, whatever its schedule.

A schedule says which worker looks at which file and in what order, and at which steps the run has
been interrupted.  All workers of a run have the same snapshot, so a step depends on the file alone,
and a run is one long posting of hits (`foldl_handle`).  No two of these hits are of the same file
and set, so the case takes all of them, and what is found is the same in any order.
-/
import FileTriage.Job.Run
import FileTriage.Proofs.Definitions.Basic
import FileTriage.Proofs.Job.Snapshots
import FileTriage.Proofs.Job.Worker
import Mathlib.Data.List.Nodup
import Mathlib.Data.List.Perm.Subperm

namespace FileTriage.JobSpec

/-! ## What a run is given -/

/-- Nobody is in the job yet, there are definitions for it, each under its name, and a case without
hits is open and takes them. -/
structure CanBegin (spec : JobSpec) (p : Workplace) (sets : Definitions) : Prop where
  inactive : p.table.references spec.job = 0
  served : p.table.source.answer p.table.source.asked = .ok sets
  named : sets.Named
  isOpen : p.caseFile.isOpen = true
  accepting : p.caseFile.accepting = true
  empty : p.caseFile.hits = []

/-- Every file has one step, in any order, and every step one of so many workers. -/
structure Schedules (files : List FileRecord) (workers : Nat) (schedule : List Step) : Prop where
  files : (schedule.map (·.file)).Perm files
  workers : ∀ step ∈ schedule, step.worker < workers

/-- The run is at no step interrupted. -/
def Uninterrupted (schedule : List Step) : Prop := ∀ step ∈ schedule, step.interrupted = false

/-- The files that are looked at: those at whose step the run has not been interrupted. -/
def handled (schedule : List Step) : List FileRecord :=
  (schedule.filter fun step => !step.interrupted).map (·.file)

/-! ## What a run is to find -/

/-- A hit that the job is to post: of one of the files that the filter lets through and that is not
slack space, of a set that the settings leave on, and of the first rule of it that the file
satisfies.  It tells the job, the id and the full path of the file, and the set and the rule. -/
def Expected (spec : JobSpec) (sets : Definitions) (files : List FileRecord) (now : Instant)
    (h : Hit) : Prop :=
  ∃ f ∈ files, spec.filter.admits f now = true ∧ f.fileType ≠ .slack ∧
    ∃ set ∈ sets.values, spec.settings.isEnabled set.name = true ∧
      ∃ rule, set.firstSatisfiedRuleName? f now = some rule ∧
        h = { job := spec.job, file := f.id, path := f.fullPath, set := set.name, rule }

/-- The snapshot that the first worker takes. -/
def snapshot (spec : JobSpec) (sets : Definitions) : JobSnapshot :=
  ⟨spec.job, sets.values.filter fun set => spec.settings.isEnabled set.name⟩

/-- The hits that files lead to, one file after the other. -/
def posts (spec : JobSpec) (s : JobSnapshot) (files : List FileRecord) (now : Instant) : List Hit :=
  (files.filter (spec.filter.admits · now)).flatMap (s.hits · now)

/-- What is counted of files that are looked at. -/
def counted (spec : JobSpec) (files : List FileRecord) (now : Instant) : JobStats :=
  { examined := files.countP (spec.filter.admits · now)
    filteredOut := files.countP fun f => !spec.filter.admits f now }

variable {spec : JobSpec} {p : Workplace} {sets : Definitions} {s : JobSnapshot} {w : Worker}
  {files files' : List FileRecord} {schedule : List Step} {workers : List Worker} {now : Instant}
  {n : Nat}

/-! ## Schedules -/

theorem handled_cons (step : Step) (schedule : List Step) :
    handled (step :: schedule) =
      if step.interrupted then handled schedule else step.file :: handled schedule := by
  cases hi : step.interrupted <;> simp [handled, hi]

theorem handled_of_uninterrupted (h : Uninterrupted schedule) :
    handled schedule = schedule.map (·.file) := by
  rw [handled, List.filter_eq_self.2]
  intro step hstep
  rw [h step hstep]
  rfl

namespace Schedules

variable (h : Schedules files n schedule)
include h

theorem handled_subperm : (handled schedule).Subperm files :=
  (List.filter_sublist.map _).subperm.trans h.files.subperm

theorem handled_perm (hu : Uninterrupted schedule) : (handled schedule).Perm files :=
  handled_of_uninterrupted hu ▸ h.files

/-- No two files that are looked at have the same id. -/
theorem handled_distinct (hids : (files.map (·.id)).Nodup) :
    (handled schedule).Pairwise fun f g => f.id ≠ g.id := by
  have hall : ((schedule.map (·.file)).map (·.id)).Nodup := (h.files.map _).nodup_iff.2 hids
  exact (List.pairwise_map.1 hall).sublist (List.filter_sublist.map _)

end Schedules

/-! ## Hits -/

/-- A file that is not slack space has a hit for each set that it belongs to. -/
theorem mem_hits_iff {f : FileRecord} {h : Hit} :
    h ∈ s.hits f now ↔ f.fileType ≠ .slack ∧ ∃ set ∈ s.sets, ∃ rule,
      set.firstSatisfiedRuleName? f now = some rule ∧ h = .ofFile s.job f set.name rule := by
  rw [JobSnapshot.mem_hits]
  simp only [JobSnapshot.memberships, List.mem_filterMap, Option.map_eq_some_iff]
  refine and_congr_right fun _ => ?_
  constructor
  · rintro ⟨m, ⟨set, hset, rule, hrule, rfl⟩, rfl⟩
    exact ⟨set, hset, rule, hrule, rfl⟩
  · rintro ⟨set, hset, rule, hrule, rfl⟩
    exact ⟨_, ⟨set, hset, rule, hrule, rfl⟩, rfl⟩

theorem file_of_mem_hits {f : FileRecord} {h : Hit} (hmem : h ∈ s.hits f now) : h.file = f.id := by
  obtain ⟨-, set, -, rule, -, rfl⟩ := mem_hits_iff.1 hmem
  rfl

/-- A file has at most one hit for each set. -/
theorem pairwise_hits (hs : s.sets.Pairwise fun a b => a.name ≠ b.name) (f : FileRecord) :
    (s.hits f now).Pairwise fun g h => (g.file, g.set) ≠ (h.file, h.set) := by
  rw [JobSnapshot.hits]
  split
  · exact .nil
  · rw [List.pairwise_map, JobSnapshot.memberships, List.pairwise_filterMap]
    refine hs.imp ?_
    intro a b hne m hm m' hm' heq
    obtain ⟨rule, -, rfl⟩ := Option.map_eq_some_iff.1 hm
    obtain ⟨rule', -, rfl⟩ := Option.map_eq_some_iff.1 hm'
    exact hne (congrArg Prod.snd heq)

/-- Files with different ids have no two hits of the same file and set. -/
theorem pairwise_posts (spec : JobSpec) (now : Instant)
    (hs : s.sets.Pairwise fun a b => a.name ≠ b.name)
    (hfiles : files.Pairwise fun f g => f.id ≠ g.id) :
    (spec.posts s files now).Pairwise fun g h => (g.file, g.set) ≠ (h.file, h.set) := by
  rw [posts, List.pairwise_flatMap]
  refine ⟨fun f _ => pairwise_hits hs f, (hfiles.filter _).imp ?_⟩
  intro f g hne x hx y hy heq
  have hfile : x.file = y.file := congrArg Prod.fst heq
  rw [file_of_mem_hits hx, file_of_mem_hits hy] at hfile
  exact hne hfile

theorem names_snapshot (spec : JobSpec) (h : sets.Named) :
    (spec.snapshot sets).sets.Pairwise fun a b => a.name ≠ b.name := by
  refine List.Pairwise.filter _ (List.pairwise_map.2 ?_)
  refine sets.ascending.imp_of_mem ?_
  intro a b ha hb hlt heq
  rw [h a ha, h b hb] at heq
  exact String.lt_irrefl _ (heq ▸ hlt)

/-- What a run posts is what it is to post. -/
theorem mem_posts_iff {h : Hit} :
    h ∈ spec.posts (spec.snapshot sets) files now ↔ spec.Expected sets files now h := by
  simp only [posts, snapshot, Expected, List.mem_flatMap, List.mem_filter, mem_hits_iff]
  constructor
  · rintro ⟨f, ⟨hf, hadmits⟩, hslack, set, ⟨hset, henabled⟩, rule, hrule, rfl⟩
    exact ⟨f, hf, hadmits, hslack, set, hset, henabled, rule, hrule, rfl⟩
  · rintro ⟨f, hf, hadmits, hslack, set, hset, henabled, rule, hrule, rfl⟩
    exact ⟨f, ⟨hf, hadmits⟩, hslack, set, ⟨hset, henabled⟩, rule, hrule, rfl⟩

theorem posts_perm (h : files.Perm files') :
    (spec.posts s files now).Perm (spec.posts s files' now) :=
  (h.filter _).flatMap_right _

theorem counted_perm (h : files.Perm files') :
    spec.counted files now = spec.counted files' now := by
  rw [counted, counted, h.countP_eq, h.countP_eq]

theorem posts_cons (f : FileRecord) (files : List FileRecord) :
    spec.posts s (f :: files) now =
      (if spec.filter.admits f now then s.hits f now else []) ++ spec.posts s files now := by
  rw [posts, List.filter_cons]
  split
  · rfl
  · rfl

theorem counted_cons (f : FileRecord) (files : List FileRecord) :
    spec.counted (f :: files) now =
      { examined :=
          (spec.counted files now).examined + (if spec.filter.admits f now then 1 else 0)
        filteredOut :=
          (spec.counted files now).filteredOut + (if spec.filter.admits f now then 0 else 1) } := by
  rw [counted, List.countP_cons, List.countP_cons]
  cases spec.filter.admits f now with
  | true => rfl
  | false => rfl

/-! ## Joining and leaving -/

/-- So many workers join a job that the table lets them join, and all have the same snapshot. -/
theorem joinAll_of_start (h : (p.table.start spec.job spec.settings).1 = .ok s)
    (logger : EventLogger) (n : Nat) :
    ∃ p', spec.joinAll logger n p =
        (none, List.replicate n { settings := spec.settings, logger, job := some s }, p') ∧
      p'.caseFile = p.caseFile := by
  induction n generalizing p with
  | zero => exact ⟨p, rfl, rfl⟩
  | succ n ih =>
    obtain ⟨p₁, hstart, htable, hcase⟩ :=
      Worker.start_of_idle (w := { settings := spec.settings, logger }) rfl h
    -- the next worker finds the snapshot that this one has taken or found
    have hagain : (p₁.table.start spec.job spec.settings).1 = .ok s := by
      rw [htable]
      exact JobTable.start_of_snapshot? (JobTable.snapshot?_start h) _
    obtain ⟨p₂, hjoin, hcase'⟩ := ih hagain
    refine ⟨p₂, ?_, hcase'.trans hcase⟩
    rw [joinAll, hstart]
    simp only
    rw [hjoin]
    rfl

theorem caseFile_leaveAll (workers : List Worker) (p : Workplace) :
    (leaveAll workers p).caseFile = p.caseFile := by
  induction workers generalizing p with
  | nil => rfl
  | cons w workers ih => exact (ih _).trans (w.caseFile_stop p)

/-! ## Steps -/

/-- A step of a worker that is in the job: nothing if the run has been interrupted, and else the
file is counted, and its hits are posted if the filter lets it through. -/
theorem handle_eq {step : Step} (hw : workers[step.worker]? = some w) (hjob : w.job = some s)
    (hopen : p.caseFile.isOpen = true) (stats : JobStats) :
    spec.handle workers now (stats, p) step =
      if step.interrupted then (stats, p)
      else if spec.filter.admits step.file now then
        ({ stats with examined := stats.examined + 1 },
          p.postAll w.logger (s.hits step.file now))
      else ({ stats with filteredOut := stats.filteredOut + 1 }, p) := by
  rw [handle]
  cases hi : step.interrupted with
  | true => rfl
  | false =>
    cases hadmits : spec.filter.admits step.file now with
    | false => rfl
    | true =>
      simp only [Bool.false_eq_true, if_false, Bool.not_true, if_true, hw]
      rw [Worker.process_of_open hjob hopen]
      rfl

/-- A run over a schedule posts the hits of the files that it looks at, in the order of the steps,
and counts these files. -/
theorem foldl_handle (spec : JobSpec) (now : Instant)
    (hworkers : ∀ step ∈ schedule, workers[step.worker]? = some w)
    (hjob : w.job = some s) (hopen : p.caseFile.isOpen = true) (stats : JobStats) :
    schedule.foldl (spec.handle workers now) (stats, p) =
      ({ stats with
          examined := stats.examined + (spec.counted (handled schedule) now).examined
          filteredOut := stats.filteredOut + (spec.counted (handled schedule) now).filteredOut },
        p.postAll w.logger (spec.posts s (handled schedule) now)) := by
  induction schedule generalizing p stats with
  | nil => rfl
  | cons step schedule ih =>
    have hrest : ∀ step ∈ schedule, workers[step.worker]? = some w :=
      fun step hstep => hworkers step (List.mem_cons_of_mem _ hstep)
    rw [List.foldl_cons, handle_eq (hworkers step List.mem_cons_self) hjob hopen, handled_cons]
    split
    · exact ih hrest hopen stats
    · split
      · next hadmits =>
        rw [ih hrest (by rw [Workplace.isOpen_postAll, hopen]), ← Workplace.postAll_append,
          posts_cons, counted_cons, if_pos hadmits, if_pos hadmits, if_pos hadmits,
          Nat.add_assoc, Nat.add_comm 1]
        rfl
      · next hrejects =>
        rw [ih hrest hopen, posts_cons, counted_cons, if_neg hrejects, if_neg hrejects,
          if_neg hrejects, Nat.add_assoc, Nat.add_comm 1]
        rfl

/-! ## Runs -/

/-- What a run comes to: it counts the files that it looks at, and the case takes their hits in the
order of the steps. -/
theorem runOn_eq (hworkers : areWorkersInLimits spec.workers = true) (hbegin : spec.CanBegin p sets)
    (hids : (files.map (·.id)).Nodup) (hschedule : Schedules files spec.workers schedule)
    (logger : EventLogger) (interrupted : Bool) (now : Instant) :
    ∃ p', spec.runOn logger schedule interrupted now p =
        (.ok { spec.counted (handled schedule) now with interrupted }, p') ∧
      p'.caseFile =
        p.caseFile.take (spec.posts (spec.snapshot sets) (handled schedule) now) := by
  have hstart : (p.table.start spec.job spec.settings).1 = .ok (spec.snapshot sets) :=
    JobTable.start_of_answer hbegin.inactive hbegin.served spec.settings
  obtain ⟨p₁, hjoin, hcase⟩ := joinAll_of_start hstart logger spec.workers
  set w : Worker := { settings := spec.settings, logger, job := some (spec.snapshot sets) } with hw
  have hmembers : ∀ step ∈ schedule, (List.replicate spec.workers w)[step.worker]? = some w := by
    intro step hstep
    rw [List.getElem?_replicate, if_pos (hschedule.workers step hstep)]
  have hopen : p₁.caseFile.isOpen = true := by rw [hcase, hbegin.isOpen]
  have hfold := foldl_handle spec now hmembers rfl hopen {}
  have haccepting : p₁.caseFile.accepting = true := by rw [hcase, hbegin.accepting]
  have hnone : p₁.caseFile.hits = [] := by rw [hcase, hbegin.empty]
  have htaken := Workplace.caseFile_postAll logger haccepting
    (fun g hg => absurd (hnone ▸ hg) List.not_mem_nil)
    (pairwise_posts spec now (names_snapshot spec hbegin.named)
      (hschedule.handled_distinct hids))
  refine ⟨leaveAll (List.replicate spec.workers w) (p₁.postAll logger
    (spec.posts (spec.snapshot sets) (handled schedule) now)), ?_, ?_⟩
  · rw [runOn, hworkers, hjoin]
    simp only [Bool.not_true, Bool.false_eq_true, if_false]
    rw [hfold]
    simp only [Nat.zero_add, hw]
    rfl
  · rw [caseFile_leaveAll, htaken, hcase]

/-- Whatever the schedule, a run finds one and the same.  It looks at the files of the steps at
which it has not been interrupted, so at all files if it never is; it counts those that the filter
lets through and those that it rejects, and no errors.  Of each file and each set the case has at
most one hit, the hits are exactly those that are expected of these files, and there is one message
about each.  A run that is never interrupted finds the same with any other number of workers and on
any other schedule. -/
theorem runOn_finds (hworkers : areWorkersInLimits spec.workers = true)
    (hbegin : spec.CanBegin p sets) (hids : (files.map (·.id)).Nodup)
    (hschedule : Schedules files spec.workers schedule) (logger : EventLogger) (interrupted : Bool)
    (now : Instant) :
    (handled schedule).Subperm files ∧
    (Uninterrupted schedule → (handled schedule).Perm files) ∧
    (∃ p', spec.runOn logger schedule interrupted now p =
        (.ok { examined := (handled schedule).countP (spec.filter.admits · now)
               filteredOut := (handled schedule).countP fun f => !spec.filter.admits f now
               errors := 0, interrupted }, p') ∧
      (p'.caseFile.hits.map fun h => (h.file, h.set)).Nodup ∧
      (∀ h, h ∈ p'.caseFile.hits ↔ spec.Expected sets (handled schedule) now h) ∧
      p'.caseFile.messages = p.caseFile.messages ++ p'.caseFile.hits.map .ofHit) ∧
    ∀ workers other, areWorkersInLimits workers = true → Schedules files workers other →
      Uninterrupted schedule → Uninterrupted other →
      let ran := spec.runOn logger schedule interrupted now p
      let reran := { spec with workers }.runOn logger other interrupted now p
      reran.1 = ran.1 ∧ reran.2.caseFile.hits.Perm ran.2.caseFile.hits ∧
        reran.2.caseFile.messages.Perm ran.2.caseFile.messages := by
  obtain ⟨p₁, hrun, hcase⟩ := runOn_eq hworkers hbegin hids hschedule logger interrupted now
  have hhits : p₁.caseFile.hits = spec.posts (spec.snapshot sets) (handled schedule) now := by
    rw [hcase, CaseFile.take, hbegin.empty, List.nil_append]
  refine ⟨hschedule.handled_subperm, hschedule.handled_perm, ⟨p₁, hrun, ?_, ?_, ?_⟩, ?_⟩
  · rw [hhits]
    exact List.pairwise_map.2 (pairwise_posts spec now (names_snapshot spec hbegin.named)
      (hschedule.handled_distinct hids))
  · intro h
    rw [hhits]
    exact mem_posts_iff
  · rw [hhits, hcase]
    rfl
  · intro workers other hothers hother hnever hnever' ran reran
    have hbegin' : CanBegin { spec with workers } p sets :=
      ⟨hbegin.inactive, hbegin.served, hbegin.named, hbegin.isOpen, hbegin.accepting, hbegin.empty⟩
    obtain ⟨p₂, hrerun, hcase'⟩ := runOn_eq hothers hbegin' hids hother logger interrupted now
    have hfiles : (handled other).Perm (handled schedule) :=
      (hother.handled_perm hnever').trans (hschedule.handled_perm hnever).symm
    have hposts : (posts spec (spec.snapshot sets) (handled other) now).Perm
        (posts spec (spec.snapshot sets) (handled schedule) now) := posts_perm hfiles
    rw [show ran = _ from hrun, show reran = _ from hrerun]
    refine ⟨?_, ?_, ?_⟩
    · show Except.ok { spec.counted (handled other) now with interrupted } = _
      rw [counted_perm hfiles]
    · show p₂.caseFile.hits.Perm p₁.caseFile.hits
      rw [hcase, hcase']
      exact hposts.append_left _
    · show p₂.caseFile.messages.Perm p₁.caseFile.messages
      rw [hcase, hcase']
      exact (hposts.map _).append_left _

/-! ## A run of two workers -/

/-- A set that every regular file belongs to. -/
def regularFiles : FilesSet where
  name := "Regular files"
  rules := ⟨[("01", ⟨"01", "Any", [.metaType .files], false, by decide, by decide, by decide,
    List.pairwise_singleton _ _⟩)], List.pairwise_singleton _ _⟩
  name_not_blank := by decide
  keyed := by decide

theorem allBlank_everythingName : Text.allBlank Definitions.everythingName = false := by decide

/-- A job of two workers who look at every file. -/
def pairJob : JobSpec where
  job := 1
  filter := regularFiles.withName Definitions.everythingName allBlank_everythingName
  workers := 2

/-- A case without hits, and definitions of one set. -/
def freshPlace : Workplace where
  table := { source := { answer := fun _ => .ok (.ofList [("Regular files", regularFiles)]) } }

/-- A regular file in the root directory. -/
def rootFile (id : UInt64) (name : String) : FileRecord :=
  { id, name, extension := "", parentPath := "/" }

/-- The second worker comes first, and the run has been interrupted before the first one comes. -/
def pairSchedule : List Step := [⟨1, rootFile 8 "b", false⟩, ⟨0, rootFile 7 "a", true⟩]

theorem pair_finds :
    ∃ p', pairJob.runOn {} pairSchedule true .epoch freshPlace =
        (.ok { examined := 1, filteredOut := 0, errors := 0, interrupted := true }, p') ∧
      p'.caseFile.hits =
        [{ job := 1, file := 8, path := "/b", set := "Regular files", rule := "Any" }] ∧
      (∀ h, h ∈ p'.caseFile.hits ↔
        pairJob.Expected (.ofList [("Regular files", regularFiles)]) [rootFile 8 "b"] .epoch h) ∧
      p'.caseFile.messages =
        [⟨"Interesting file found: Regular files", "/b (rule: Any)", 8⟩] := by
  have hbegin : pairJob.CanBegin freshPlace (.ofList [("Regular files", regularFiles)]) :=
    ⟨rfl, rfl, by decide, rfl, rfl, rfl⟩
  have hschedule : Schedules [rootFile 7 "a", rootFile 8 "b"] pairJob.workers pairSchedule :=
    ⟨by decide, by decide⟩
  obtain ⟨-, -, ⟨p', hrun, -, hexpected, hmessages⟩, -⟩ :=
    runOn_finds (by decide) hbegin (by decide) hschedule {} true .epoch
  -- of the file that is looked at, the case has the hit of the one set
  have hhits : p'.caseFile.hits =
      [{ job := 1, file := 8, path := "/b", set := "Regular files", rule := "Any" }] := by
    have hrest : (pairJob.runOn {} pairSchedule true .epoch freshPlace).2.caseFile.hits =
        [{ job := 1, file := 8, path := "/b", set := "Regular files", rule := "Any" }] := by
      decide
    rwa [hrun] at hrest
  refine ⟨p', hrun, hhits, hexpected, ?_⟩
  rw [hmessages, hhits]
  decide

end FileTriage.JobSpec
