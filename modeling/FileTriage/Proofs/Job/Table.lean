/-
What a table of jobs answers, and what joining and leaving a job does to it.

A table is seen through its look-ups.  Joining and leaving are described once, by the cases of
`Started` and `Stopped`; proofs about runs go by these cases and not by the code.
-/
import FileTriage.Job.Table
import Mathlib.Data.List.Nodup

namespace FileTriage.JobTable

variable {t : JobTable} {job k : UInt64} {active new : ActiveJob}

/-! ## Look-ups -/

theorem find?_eq_some_iff : t.find? job = some active ↔ (job, active) ∈ t.jobs := by
  constructor
  · intro h
    obtain ⟨e, he, rfl⟩ := Option.map_eq_some_iff.1 h
    have hkey : e.1 = job := by simpa using List.find?_some he
    exact hkey ▸ List.mem_of_find?_eq_some he
  · intro hmem
    cases hfind : t.find? job with
    | none => exact absurd (List.mem_map.2 ⟨_, hmem, rfl⟩) (find?_eq_none hfind)
    | some other =>
      obtain ⟨e, he, rfl⟩ := Option.map_eq_some_iff.1 hfind
      have hkey : e.1 = job := by simpa using List.find?_some he
      -- no job is there twice, so what has been found is the entry that was given
      have heq : e = (job, active) :=
        List.inj_on_of_nodup_map t.distinct (List.mem_of_find?_eq_some he) hmem hkey
      rw [heq]

theorem mem_keys_iff : job ∈ t.jobs.map (·.1) ↔ ∃ active, t.find? job = some active := by
  simp only [List.mem_map, find?_eq_some_iff]
  constructor
  · rintro ⟨e, he, rfl⟩
    exact ⟨e.2, he⟩
  · rintro ⟨active, hmem⟩
    exact ⟨_, hmem, rfl⟩

theorem references_of_find? (h : t.find? job = some active) :
    t.references job = active.workers := by
  rw [references, h]
  rfl

theorem snapshot?_of_find? (h : t.find? job = some active) :
    t.snapshot? job = some active.snapshot := by
  rw [snapshot?, h]
  rfl

theorem references_congr {t' : JobTable} (h : t'.find? k = t.find? k) :
    t'.references k = t.references k := by
  rw [references, references, h]

theorem snapshot?_congr {t' : JobTable} (h : t'.find? k = t.find? k) :
    t'.snapshot? k = t.snapshot? k := by
  rw [snapshot?, snapshot?, h]

/-- A job that is not active has no workers, and one that is active has some. -/
theorem references_eq_zero_iff : t.references job = 0 ↔ t.find? job = none := by
  cases h : t.find? job with
  | none =>
    rw [references, h]
    exact iff_of_true rfl rfl
  | some active =>
    have hstaffed := active.staffed
    rw [references_of_find? h]
    simp only [reduceCtorEq, iff_false]
    omega

theorem references_pos_iff : 0 < t.references job ↔ ∃ active, t.find? job = some active := by
  rw [Nat.pos_iff_ne_zero, ne_eq, references_eq_zero_iff, ← ne_eq, Option.ne_none_iff_exists']

/-- A job has a snapshot exactly if it has workers. -/
theorem isSome_snapshot?_iff : (t.snapshot? job).isSome = true ↔ 0 < t.references job := by
  rw [references_pos_iff, snapshot?, Option.isSome_map, Option.isSome_iff_exists]

/-! ## Changing a table -/

theorem find?_replace (h : t.find? job = some active) :
    (t.replace job new).find? k = if job = k then some new else t.find? k := by
  ext a
  rw [find?_eq_some_iff, replace, List.mem_map]
  constructor
  · rintro ⟨e, he, heq⟩
    split at heq
    · cases heq
      rw [if_pos rfl]
    · next hne =>
      subst heq
      rw [if_neg (Ne.symm hne)]
      exact find?_eq_some_iff.2 he
  · intro ha
    split at ha
    · next hk =>
      cases ha
      exact ⟨_, find?_eq_some_iff.1 h, by rw [if_pos rfl, hk]⟩
    · next hne => exact ⟨_, find?_eq_some_iff.1 ha, if_neg (Ne.symm hne)⟩

theorem find?_remove : (t.remove job).find? k = if job = k then none else t.find? k := by
  ext a
  rw [find?_eq_some_iff, remove, List.mem_filter, decide_eq_true_eq, ← find?_eq_some_iff]
  split
  · next hk => simp [hk]
  · next hne => exact and_iff_left (Ne.symm hne)

theorem find?_add (h : t.find? job = none) :
    (t.add job new h).find? k = if job = k then some new else t.find? k := by
  ext a
  rw [find?_eq_some_iff, add, List.mem_append, List.mem_singleton, ← find?_eq_some_iff]
  split
  · next hk =>
    subst hk
    simp [h, eq_comm]
  · next hne => simp [Ne.symm hne]

/-! ## Joining -/

/-- The ways in which a worker can join a job, or fail to. -/
inductive Started (t : JobTable) (job : UInt64) (settings : JobSettings) :
    Except IngestError JobSnapshot × JobTable → Prop where
  /-- The job is active, and has one worker more. -/
  | joined {active : ActiveJob} {t' : JobTable} (hactive : t.find? job = some active)
      (hsource : t'.source = t.source)
      (hfind : ∀ k, t'.find? k =
        if job = k then some ⟨active.workers + 1, active.snapshot, Nat.succ_pos _⟩
        else t.find? k) :
      Started t job settings (.ok active.snapshot, t')
  /-- The job is not active, and there are no definitions for it. -/
  | refused {e : StoreError} (hfree : t.find? job = none)
      (hanswer : t.source.answer t.source.asked = .error e) :
      Started t job settings (.error (.definitionsUnavailable job e),
        { t with source := { t.source with asked := t.source.asked + 1 } })
  /-- The job is not active, and a snapshot is taken of the definitions. -/
  | founded {sets : Definitions} {t' : JobTable} (hfree : t.find? job = none)
      (hanswer : t.source.answer t.source.asked = .ok sets)
      (hsource : t'.source = { t.source with asked := t.source.asked + 1 })
      (hfind : ∀ k, t'.find? k =
        if job = k then
          some ⟨1, ⟨job, sets.values.filter fun s => settings.isEnabled s.name⟩, Nat.one_pos⟩
        else t.find? k) :
      Started t job settings
        (.ok ⟨job, sets.values.filter fun s => settings.isEnabled s.name⟩, t')

theorem started_start (t : JobTable) (job : UInt64) (settings : JobSettings) :
    t.Started job settings (t.start job settings) := by
  rw [start]
  split
  · next active hactive => exact .joined hactive rfl fun k => find?_replace hactive
  · next hfree =>
    split
    · next e hanswer => exact .refused hfree hanswer
    · next sets hanswer => exact .founded hfree hanswer rfl fun k => find?_add hfree

/-- A job that has been joined has one worker more, and everybody has the same snapshot. -/
theorem exists_find?_start {settings : JobSettings} {s : JobSnapshot} {t' : JobTable}
    (h : t.start job settings = (.ok s, t')) :
    ∃ new, (∀ k, t'.find? k = if job = k then some new else t.find? k) ∧
      new.workers = t.references job + 1 ∧ new.snapshot = s ∧
      (t.find? job = none → s.job = job) ∧
      ∀ active, t.find? job = some active → active.snapshot = s := by
  have hstarted := t.started_start job settings
  rw [h] at hstarted
  cases hstarted with
  | joined hactive _ hfind =>
    refine ⟨_, hfind, ?_, rfl, ?_, ?_⟩
    · rw [references_of_find? hactive]
    · intro hfree
      rw [hactive] at hfree
      cases hfree
    · intro other hother
      rw [hactive] at hother
      cases hother
      rfl
  | founded hfree _ _ hfind =>
    refine ⟨_, hfind, ?_, rfl, fun _ => rfl, ?_⟩
    · rw [references_eq_zero_iff.2 hfree]
    · intro active hactive
      rw [hfree] at hactive
      cases hactive

/-- A worker that does not find the definitions it asks for leaves every job as it is. -/
theorem find?_start_error {settings : JobSettings} {e : IngestError} {t' : JobTable}
    (h : t.start job settings = (.error e, t')) (k : UInt64) : t'.find? k = t.find? k := by
  have hstarted := t.started_start job settings
  rw [h] at hstarted
  generalize hr : (Except.error e, t') = r at hstarted
  cases hstarted with
  | joined => cases hr
  | refused =>
    cases hr
    rfl
  | founded => cases hr

/-! ## Leaving -/

/-- The ways in which a worker can leave a job. -/
inductive Stopped (t : JobTable) (job : UInt64) : Bool × JobTable → Prop where
  /-- The job is not active, and nothing changes. -/
  | unknown (hfree : t.find? job = none) : Stopped t job (false, t)
  /-- Other workers remain. -/
  | left {active : ActiveJob} {t' : JobTable} (hactive : t.find? job = some active)
      (hmore : 1 < active.workers) (hsource : t'.source = t.source)
      (hfind : ∀ k, t'.find? k =
        if job = k then
          some ⟨active.workers - 1, active.snapshot, Nat.sub_pos_of_lt hmore⟩
        else t.find? k) :
      Stopped t job (false, t')
  /-- The last worker leaves, and the snapshot is given up. -/
  | emptied {active : ActiveJob} {t' : JobTable} (hactive : t.find? job = some active)
      (hlast : active.workers = 1) (hsource : t'.source = t.source)
      (hfind : ∀ k, t'.find? k = if job = k then none else t.find? k) :
      Stopped t job (true, t')

theorem stopped_stop (t : JobTable) (job : UInt64) : t.Stopped job (t.stop job) := by
  rw [stop]
  split
  · next hfree => exact .unknown hfree
  · next active hactive =>
    have hstaffed := active.staffed
    split
    · next hmore => exact .left hactive hmore rfl fun k => find?_replace hactive
    · next hfew => exact .emptied hactive (by omega) rfl fun k => find?_remove

/-- A job that has been left has one worker less, and is given up with the last one; until then
the snapshot stays the same. -/
theorem exists_find?_stop (h : t.find? job = some active) :
    ∃ new : Option ActiveJob,
      (∀ k, (t.stop job).2.find? k = if job = k then new else t.find? k) ∧
      (new.map (·.workers)).getD 0 + 1 = active.workers ∧
      ∀ a, new = some a → a.snapshot = active.snapshot := by
  have hstopped := t.stopped_stop job
  generalize t.stop job = r at hstopped
  cases hstopped with
  | unknown hfree =>
    rw [h] at hfree
    cases hfree
  | left hactive hmore _ hfind =>
    cases h.symm.trans hactive
    refine ⟨_, hfind, ?_, ?_⟩
    · show active.workers - 1 + 1 = active.workers
      omega
    · rintro _ ⟨⟩
      rfl
  | emptied hactive hlast _ hfind =>
    cases h.symm.trans hactive
    refine ⟨none, hfind, hlast.symm, ?_⟩
    rintro _ ⟨⟩

end FileTriage.JobTable
