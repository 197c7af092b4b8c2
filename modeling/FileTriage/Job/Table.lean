/-
Jobs and their snapshots.

The first worker of a job takes a snapshot of the sets that the job applies, and those that join
it share the snapshot, whatever happens to the definitions meanwhile.  The last worker to leave
gives it up.
-/
import FileTriage.Definitions.Store
import FileTriage.Job.Settings

namespace FileTriage

/-- The sets that a job applies. -/
structure JobSnapshot where
  job : UInt64
  sets : List FilesSet
deriving DecidableEq

/-- The names of the sets that a file belongs to, each with the name of the first rule that the
file satisfies. -/
def JobSnapshot.memberships (s : JobSnapshot) (f : FileRecord) (now : Instant) :
    List (String × String) :=
  s.sets.filterMap fun set => (set.firstSatisfiedRuleName? f now).map fun rule => (set.name, rule)

/-- Why a worker cannot work. -/
inductive IngestError where
  | definitionsUnavailable (job : UInt64) (source : StoreError)
  | notStarted
deriving DecidableEq, Repr

/-- The wording of an error, where all of it is of this library. -/
def IngestError.message? : IngestError → Option String
  | definitionsUnavailable job source => source.message?.map fun m =>
    s!"Failed to load files sets for ingest job {job.toNat}: {m}"
  | notStarted => some "Files identifier used before start_up"

/-- Where the sets of jobs come from: the answer to each time of asking, and how often it has been
asked. -/
structure DefinitionsSource where
  answer : Nat → Except StoreError Definitions
  asked : Nat := 0

/-- A job that workers take part in. -/
structure ActiveJob where
  workers : Nat
  snapshot : JobSnapshot
  staffed : 0 < workers

/-- The jobs that workers take part in. -/
structure JobTable where
  source : DefinitionsSource
  jobs : List (UInt64 × ActiveJob) := []
  distinct : (jobs.map (·.1)).Nodup := by exact List.nodup_nil

namespace JobTable

/-- A job, if it is active. -/
def find? (t : JobTable) (job : UInt64) : Option ActiveJob :=
  (t.jobs.find? fun j => j.1 = job).map (·.2)

/-- The snapshot of a job. -/
def snapshot? (t : JobTable) (job : UInt64) : Option JobSnapshot := (t.find? job).map (·.snapshot)

/-- How many workers take part in a job. -/
def references (t : JobTable) (job : UInt64) : Nat := ((t.find? job).map (·.workers)).getD 0

/-- How many jobs are active. -/
def activeJobs (t : JobTable) : Nat := t.jobs.length

theorem map_fst_replace {α β : Type} [DecidableEq α] (l : List (α × β)) (a : α) (b : β) :
    (l.map fun e => if e.1 = a then (a, b) else e).map (·.1) = l.map (·.1) := by
  rw [List.map_map]
  refine List.map_congr_left fun e _ => ?_
  simp only [Function.comp_apply]
  split
  · next h => exact h.symm
  · rfl

/-- The table with another state of a job that is active. -/
def replace (t : JobTable) (job : UInt64) (active : ActiveJob) : JobTable :=
  { t with
    jobs := t.jobs.map fun j => if j.1 = job then (job, active) else j
    distinct := by rw [map_fst_replace]; exact t.distinct }

/-- The table without a job. -/
def remove (t : JobTable) (job : UInt64) : JobTable :=
  { t with
    jobs := t.jobs.filter fun j => j.1 ≠ job
    distinct := t.distinct.sublist (List.filter_sublist.map _) }

theorem find?_eq_none {t : JobTable} {job : UInt64} (h : t.find? job = none) :
    job ∉ t.jobs.map (·.1) := by
  intro mem
  obtain ⟨e, he, rfl⟩ := List.mem_map.1 mem
  simp only [find?, Option.map_eq_none_iff, List.find?_eq_none, decide_eq_true_eq] at h
  exact h e he rfl

/-- The table with a job that was not active. -/
def add (t : JobTable) (job : UInt64) (active : ActiveJob) (h : t.find? job = none) : JobTable :=
  { t with
    jobs := t.jobs ++ [(job, active)]
    distinct := by
      rw [List.map_append, List.nodup_append]
      refine ⟨t.distinct, by simp, fun a ha b hb => ?_⟩
      simp only [List.map_cons, List.map_nil, List.mem_singleton] at hb
      exact fun e => find?_eq_none h (hb ▸ e ▸ ha) }

/-- A worker joins a job.  Only the first one asks for the definitions; where there are none, it
does not join. -/
def start (t : JobTable) (job : UInt64) (settings : JobSettings) :
    Except IngestError JobSnapshot × JobTable :=
  match h : t.find? job with
  | some active =>
    (.ok active.snapshot,
      t.replace job { active with workers := active.workers + 1, staffed := by omega })
  | none =>
    let asked : DefinitionsSource := { t.source with asked := t.source.asked + 1 }
    match t.source.answer t.source.asked with
    | .error e => (.error (.definitionsUnavailable job e), { t with source := asked })
    | .ok sets =>
      let snapshot : JobSnapshot :=
        ⟨job, sets.values.filter fun s => settings.isEnabled s.name⟩
      (.ok snapshot, { t.add job ⟨1, snapshot, by omega⟩ h with source := asked })

/-- A worker leaves a job; says whether it was the last one. -/
def stop (t : JobTable) (job : UInt64) : Bool × JobTable :=
  match t.find? job with
  | none => (false, t)
  | some active =>
    if h : 1 < active.workers then
      (false, t.replace job { active with workers := active.workers - 1, staffed := by omega })
    else (true, t.remove job)

end JobTable

end FileTriage
