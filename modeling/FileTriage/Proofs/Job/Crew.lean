/-
Workers who share a table of jobs, over every run.

A crew starts with no job.  Its workers join jobs, look at files and leave, in any order, while the
definitions change or fail and the case is opened, closed or full.  In every state that is reached
the table counts the workers of each job and holds the snapshot that they have.  A worker that
joins a job first leaves the one it is in, so there are two steps to look at, `Tallied.release` and
`Tallied.join`, and both are about one place in the list of workers.
-/
import FileTriage.Proofs.Job.Table
import FileTriage.Proofs.Job.Worker
import Mathlib.Data.List.Dedup

namespace FileTriage

/-! ## Crews and what they do -/

/-- Workers who share a workplace. -/
structure Crew where
  place : Workplace
  workers : List Worker

namespace Crew

/-- What a worker of a crew does, or what happens around the crew. -/
inductive Action where
  | start (worker : Nat) (job : UInt64)
  | process (worker : Nat) (file : FileRecord) (now : Instant)
  | stop (worker : Nat)
  /-- From now on the definitions are these, or fail like this. -/
  | serve (answer : Nat → Except StoreError Definitions)
  /-- The case is opened or closed, and takes hits or does not. -/
  | turnCase (isOpen accepting : Bool)

/-- The crew after an action; a worker that does not exist does nothing. -/
def act (c : Crew) : Action → Crew
  | .start i job =>
    match c.workers[i]? with
    | none => c
    | some w =>
      let (_, w, place) := w.start c.place job
      { place, workers := c.workers.set i w }
  | .process i file now =>
    match c.workers[i]? with
    | none => c
    | some w => { c with place := (w.process c.place file now).2 }
  | .stop i =>
    match c.workers[i]? with
    | none => c
    | some w =>
      let (w, place) := w.stop c.place
      { place, workers := c.workers.set i w }
  | .serve answer => { c with place.table.source.answer := answer }
  | .turnCase isOpen accepting =>
    { c with place.caseFile := { c.place.caseFile with isOpen, accepting } }

/-- The crew after actions. -/
def run (c : Crew) (actions : List Action) : Crew := actions.foldl act c

/-- Workers with their settings and loggers, none of them in a job yet. -/
def gather (source : DefinitionsSource) (caseFile : CaseFile)
    (members : List (JobSettings × EventLogger)) : Crew :=
  { place := { table := { source }, caseFile }
    workers := members.map fun m => { settings := m.1, logger := m.2 } }

/-- How many workers take part in a job. -/
def count (c : Crew) (job : UInt64) : Nat := c.workers.countP fun w => w.jobId? = some job

/-- The jobs that workers take part in, each once. -/
def heldJobs (c : Crew) : List UInt64 := (c.workers.filterMap Worker.jobId?).dedup

variable {c : Crew} {i : Nat} {w v : Worker} {place : Workplace} {job : UInt64}

/-! ## Counting workers -/

/-- One worker in the place of another. -/
theorem count_set (hw : c.workers[i]? = some w) (place : Workplace) (v : Worker) (job : UInt64) :
    (Crew.mk place (c.workers.set i v)).count job + (if w.jobId? = some job then 1 else 0) =
      c.count job + (if v.jobId? = some job then 1 else 0) := by
  obtain ⟨hi, rfl⟩ := List.getElem?_eq_some_iff.1 hw
  have hcounted : (if c.workers[i].jobId? = some job then 1 else 0) ≤ c.count job := by
    have h := List.boole_getElem_le_countP (p := fun w : Worker => decide (w.jobId? = some job)) hi
    simpa [count] using h
  simp only [count, List.countP_set hi, decide_eq_true_eq] at hcounted ⊢
  omega

theorem count_pos_iff : 0 < c.count job ↔ ∃ w ∈ c.workers, w.jobId? = some job := by
  simp only [count, List.countP_pos_iff, decide_eq_true_eq]

theorem mem_heldJobs_iff : job ∈ c.heldJobs ↔ 0 < c.count job := by
  rw [heldJobs, List.mem_dedup, List.mem_filterMap, count_pos_iff]

/-! ## The invariant -/

/-- The table counts the workers of a crew, and holds the snapshots that they have. -/
structure Tallied (c : Crew) : Prop where
  /-- A snapshot is that of the job that it is found under. -/
  labelled : ∀ {job active}, c.place.table.find? job = some active → active.snapshot.job = job
  /-- A job is counted once for each of its workers. -/
  references : ∀ job, c.place.table.references job = c.count job
  /-- What a worker has is what the table has. -/
  held : ∀ w ∈ c.workers, ∀ s, w.job = some s → c.place.table.snapshot? s.job = some s

theorem tallied_gather (source : DefinitionsSource) (caseFile : CaseFile)
    (members : List (JobSettings × EventLogger)) : (gather source caseFile members).Tallied := by
  have hidle : ∀ w ∈ (gather source caseFile members).workers, w.job = none := by
    intro w hw
    obtain ⟨m, -, rfl⟩ := List.mem_map.1 hw
    rfl
  constructor
  · intro job active hfind
    cases hfind
  · intro job
    have hnone : ¬ 0 < (gather source caseFile members).count job := by
      rw [count_pos_iff]
      rintro ⟨w, hw, hjob⟩
      rw [Worker.jobId?, hidle w hw] at hjob
      cases hjob
    have hzero : (gather source caseFile members).place.table.references job = 0 := rfl
    omega
  · intro w hw s hs
    rw [hidle w hw] at hs
    cases hs

/-- The job of a worker is active. -/
theorem Tallied.exists_find? (h : c.Tallied) (hw : w ∈ c.workers) {s : JobSnapshot}
    (hs : w.job = some s) :
    ∃ active, c.place.table.find? s.job = some active ∧ active.snapshot = s :=
  Option.map_eq_some_iff.1 (h.held w hw s hs)

/-- A step that changes neither the workers nor what the table has of any job. -/
theorem Tallied.of_same (h : c.Tallied)
    (hfind : ∀ k, place.table.find? k = c.place.table.find? k) :
    (Crew.mk place c.workers).Tallied := by
  constructor
  · intro k active hactive
    exact h.labelled ((hfind k).symm.trans hactive)
  · intro k
    exact (JobTable.references_congr (hfind k)).trans (h.references k)
  · intro v hv s hs
    exact (JobTable.snapshot?_congr (hfind s.job)).trans (h.held v hv s hs)

/-! ## Leaving a job -/

/-- A worker that leaves its job is counted no longer. -/
theorem count_release (hw : c.workers[i]? = some w) (place : Workplace) (job : UInt64) :
    (Crew.mk place (c.workers.set i { w with job := none })).count job +
      (if w.jobId? = some job then 1 else 0) = c.count job := by
  have hset := count_set hw place { w with job := none } job
  simpa [Worker.jobId?] using hset

theorem set_idle (hw : c.workers[i]? = some w) (hidle : w.job = none) :
    c.workers.set i { w with job := none } = c.workers := by
  obtain ⟨hi, rfl⟩ := List.getElem?_eq_some_iff.1 hw
  rw [← hidle]
  exact List.set_getElem_self hi

/-- A worker leaves its job, and no other worker loses its snapshot. -/
theorem Tallied.release (h : c.Tallied) (hw : c.workers[i]? = some w) :
    (Crew.mk (w.stop c.place).2 (c.workers.set i { w with job := none })).Tallied := by
  cases hjob : w.job with
  | none =>
    rw [Worker.stop_of_idle hjob, set_idle hw hjob]
    exact h.of_same fun k => rfl
  | some s =>
    obtain ⟨active, hactive, rfl⟩ := h.exists_find? (List.mem_of_getElem? hw) hjob
    obtain ⟨new, hfind, hworkers, hsnapshot⟩ := JobTable.exists_find?_stop hactive
    rw [← Worker.table_stop hjob c.place] at hfind
    set left := Crew.mk (w.stop c.place).2 (c.workers.set i { w with job := none }) with hleft
    have hcount : ∀ k, left.count k + (if active.snapshot.job = k then 1 else 0) = c.count k := by
      intro k
      have hrelease := count_release hw (w.stop c.place).2 k
      rw [Worker.jobId?, hjob] at hrelease
      simpa using hrelease
    have hnew : (new.map (·.workers)).getD 0 = left.count active.snapshot.job := by
      have hself := hcount active.snapshot.job
      rw [if_pos rfl, ← h.references, JobTable.references_of_find? hactive] at hself
      omega
    constructor
    · intro k a ha
      rw [hfind] at ha
      split at ha
      · next hk => rw [hsnapshot a ha, hk]
      · exact h.labelled ha
    · intro k
      rw [JobTable.references, hfind]
      split
      · next hk => exact hk ▸ hnew
      · next hk =>
        have hsame := hcount k
        rw [if_neg hk, Nat.add_zero] at hsame
        exact (h.references k).trans hsame.symm
    · intro v hv s hs
      have hold : v ∈ c.workers := by
        rcases List.mem_or_eq_of_mem_set hv with hv | rfl
        · exact hv
        · cases hs
      have hheld := h.held v hold s hs
      rw [JobTable.snapshot?, hfind]
      split
      · next hk =>
        -- a worker that remains is counted, so the job is still there
        have hpos : 0 < left.count active.snapshot.job :=
          count_pos_iff.2 ⟨v, hv, Worker.jobId?_eq_some_iff.2 ⟨s, hs, hk.symm⟩⟩
        rw [← hk, JobTable.snapshot?_of_find? hactive] at hheld
        cases hn : new with
        | none =>
          rw [hn] at hnew
          exact absurd hnew (Nat.ne_of_lt hpos)
        | some a => rw [Option.map_some, hsnapshot a hn, hheld]
      · exact hheld

/-! ## Joining a job -/

/-- A worker that is in no job joins one. -/
theorem Tallied.join (h : c.Tallied) (hw : c.workers[i]? = some w) (hidle : w.job = none)
    {s : JobSnapshot} (hstart : c.place.table.start job w.settings = (.ok s, place.table)) :
    (Crew.mk place (c.workers.set i { w with job := some s })).Tallied := by
  obtain ⟨new, hfind, hworkers, hsnapshot, hfresh, hshared⟩ := JobTable.exists_find?_start hstart
  have hjob : s.job = job := by
    cases hactive : c.place.table.find? job with
    | none => exact hfresh hactive
    | some active => exact hshared active hactive ▸ h.labelled hactive
  set joined := Crew.mk place (c.workers.set i { w with job := some s }) with hjoined
  have hcount : ∀ k, joined.count k = c.count k + (if job = k then 1 else 0) := by
    intro k
    have hset := count_set hw place { w with job := some s } k
    rw [Worker.jobId?, hidle, Worker.jobId?, ← hjoined] at hset
    simpa [hjob] using hset
  constructor
  · intro k a ha
    rw [hfind] at ha
    split at ha
    · next hk =>
      cases ha
      rw [hsnapshot, hjob, hk]
    · exact h.labelled ha
  · intro k
    rw [JobTable.references, hfind, hcount]
    split
    · next hk =>
      rw [← hk, ← h.references]
      exact hworkers
    · exact h.references k
  · intro v hv u hu
    rw [JobTable.snapshot?, hfind]
    rcases List.mem_or_eq_of_mem_set hv with hold | rfl
    · have hheld := h.held v hold u hu
      split
      · next hk =>
        -- whoever is in the job already has the snapshot that is handed out
        obtain ⟨active, hactive, rfl⟩ := h.exists_find? hold hu
        rw [← hk] at hactive
        rw [Option.map_some, hsnapshot, hshared active hactive]
      · exact hheld
    · cases hu
      rw [if_pos hjob.symm, Option.map_some, hsnapshot]

/-! ## Runs -/

/-- An action keeps the invariant. -/
theorem Tallied.act (h : c.Tallied) (a : Action) : (c.act a).Tallied := by
  cases a with
  | start i job =>
    rw [Crew.act]
    split
    · exact h
    · next w hw =>
      have hreleased := h.release hw
      have hi := (List.getElem?_eq_some_iff.1 hw).1
      have hw' : (c.workers.set i { w with job := none })[i]? = some { w with job := none } :=
        List.getElem?_set_self hi
      rcases w.start_cases c.place job with ⟨e, table, hstart, heq⟩ | ⟨s, table, hstart, heq⟩
      · rw [heq]
        exact hreleased.of_same fun k => JobTable.find?_start_error hstart k
      · rw [heq]
        set place := Workplace.report { (w.stop c.place).2 with table } w.logger
          (.jobStarted job s.sets.length) with hplace
        have hgiven : (w.stop c.place).2.table.start job w.settings = (.ok s, place.table) := hstart
        have hjoined := hreleased.join hw' rfl hgiven
        rw [List.set_set] at hjoined
        exact hjoined
  | process i file now =>
    rw [Crew.act]
    split
    · exact h
    · next w hw => exact h.of_same fun k => by rw [Worker.table_process]
  | stop i =>
    rw [Crew.act]
    split
    · exact h
    · next w hw =>
      have hreleased := h.release hw
      rw [← Worker.fst_stop w c.place] at hreleased
      exact hreleased
  | serve answer => exact h.of_same fun k => rfl
  | turnCase isOpen accepting => exact h.of_same fun k => rfl

/-- A run keeps the invariant. -/
theorem Tallied.run (h : c.Tallied) (actions : List Action) : (c.run actions).Tallied := by
  induction actions generalizing c with
  | nil => exact h
  | cons a actions ih => exact ih (h.act a)

/-! ## What the invariant says -/

/-- As many jobs are active as workers hold. -/
theorem Tallied.activeJobs_eq (h : c.Tallied) :
    c.place.table.activeJobs = c.heldJobs.length := by
  have hmem : ∀ job, job ∈ c.place.table.jobs.map (·.1) ↔ job ∈ c.heldJobs := by
    intro job
    rw [JobTable.mem_keys_iff, ← JobTable.references_pos_iff, h.references, mem_heldJobs_iff]
  have hperm : (c.place.table.jobs.map (·.1)).Perm c.heldJobs :=
    (List.perm_ext_iff_of_nodup c.place.table.distinct (List.nodup_dedup _)).2 hmem
  have hlength := hperm.length_eq
  rw [List.length_map] at hlength
  exact hlength

/-- A worker that leaves its job takes exactly one reference with it. -/
theorem Tallied.references_stop (h : c.Tallied) (hw : w ∈ c.workers) (job : UInt64) :
    (w.stop c.place).2.table.references job + (if w.jobId? = some job then 1 else 0) =
      c.place.table.references job := by
  obtain ⟨i, hi, rfl⟩ := List.mem_iff_getElem.1 hw
  have hget : c.workers[i]? = some c.workers[i] := List.getElem?_eq_getElem hi
  rw [(h.release hget).references job, h.references]
  exact count_release hget _ job

/-- A worker that cannot join a job has left the one before and is in none, and it has taken its
reference with it and nothing else. -/
theorem Tallied.start_error (h : c.Tallied) (hw : w ∈ c.workers) {e : IngestError}
    (herror : (w.start c.place job).1 = .error e) :
    (w.start c.place job).2.1.job = none ∧
      ∀ k, (w.start c.place job).2.2.table.references k + (if w.jobId? = some k then 1 else 0) =
        c.place.table.references k := by
  rcases w.start_cases c.place job with ⟨e', table, hstart, heq⟩ | ⟨s, table, hstart, heq⟩
  · rw [heq]
    refine ⟨rfl, fun k => ?_⟩
    rw [JobTable.references_congr (JobTable.find?_start_error hstart k)]
    exact h.references_stop hw k
  · rw [heq] at herror
    cases herror

/-- Whatever a crew has done, the table counts for each job the workers that take part in it, has a
snapshot of the job exactly if there are any, which is the one that all of them have, and as many
jobs are active as workers hold.  A worker that leaves finds its job counted, and one that cannot
join a job has left the one before and is in none. -/
theorem table_counts_workers (source : DefinitionsSource) (caseFile : CaseFile)
    (members : List (JobSettings × EventLogger)) (actions : List Action) :
    let c := (gather source caseFile members).run actions
    (∀ job, c.place.table.references job = c.count job ∧
      ((c.place.table.snapshot? job).isSome = true ↔ 0 < c.count job) ∧
      ∀ w ∈ c.workers, w.jobId? = some job → w.job = c.place.table.snapshot? job) ∧
    c.place.table.activeJobs = c.heldJobs.length ∧
    (∀ w ∈ c.workers, ∀ job, w.jobId? = some job →
      (w.stop c.place).2.table.references job + 1 = c.place.table.references job) ∧
    ∀ w ∈ c.workers, ∀ job e, (w.start c.place job).1 = .error e →
      (w.start c.place job).2.1.job = none ∧
      ∀ k, (w.start c.place job).2.2.table.references k + (if w.jobId? = some k then 1 else 0) =
        c.place.table.references k := by
  intro c
  have h : c.Tallied := (tallied_gather source caseFile members).run actions
  refine ⟨fun job => ⟨h.references job, ?_, ?_⟩, h.activeJobs_eq, ?_, ?_⟩
  · rw [JobTable.isSome_snapshot?_iff, h.references]
  · intro w hw hjob
    obtain ⟨s, hs, rfl⟩ := Worker.jobId?_eq_some_iff.1 hjob
    rw [h.held w hw s hs, hs]
  · intro w hw job hjob
    have hstop := h.references_stop hw job
    rw [if_pos hjob] at hstop
    exact hstop
  · intro w hw job e herror
    exact h.start_error hw herror

end Crew

end FileTriage
