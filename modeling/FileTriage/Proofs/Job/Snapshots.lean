/-
Snapshots over every run of a table.

A job is founded when its first worker joins it.  What it applies is settled then, by the
definitions of that moment and the settings of that worker, and stays until the last worker has
left: `Founded` points at the call of a run that founded a job.  One call either founds a job or
leaves its snapshot as it was, and that carries over to runs.
-/
import FileTriage.Proofs.Job.Table
import Mathlib.Data.List.Induction

namespace FileTriage.JobTable

/-! ## Runs -/

/-- What is asked of a table, or happens to the source of its definitions. -/
inductive Call where
  | start (job : UInt64) (settings : JobSettings)
  | stop (job : UInt64)
  /-- From now on the definitions are these, or fail like this. -/
  | serve (answer : Nat → Except StoreError Definitions)

/-- The table after a call. -/
def call (t : JobTable) : Call → JobTable
  | .start job settings => (t.start job settings).2
  | .stop job => (t.stop job).2
  | .serve answer => { t with source.answer := answer }

/-- The table after calls. -/
def run (t : JobTable) (calls : List Call) : JobTable := calls.foldl call t

variable {t : JobTable} {calls : List Call} {c : Call} {job : UInt64} {s : JobSnapshot}

theorem run_append (t : JobTable) (front back : List Call) :
    t.run (front ++ back) = (t.run front).run back :=
  List.foldl_append

theorem run_concat (t : JobTable) (calls : List Call) (c : Call) :
    t.run (calls ++ [c]) = (t.run calls).call c :=
  run_append t calls [c]

/-! ## One call -/

/-- The snapshot of a job after a call has been there before, or the call has founded the job. -/
theorem snapshot?_call (h : (t.call c).snapshot? job = some s) :
    t.snapshot? job = some s ∨
      ∃ settings sets, c = .start job settings ∧ t.references job = 0 ∧
        t.source.answer t.source.asked = .ok sets ∧
        s = ⟨job, sets.values.filter fun set => settings.isEnabled set.name⟩ := by
  cases c with
  | start k settings =>
    have hstarted := t.started_start k settings
    rw [call] at h
    generalize t.start k settings = r at h hstarted
    cases hstarted with
    | joined hactive _ hfind =>
      rw [snapshot?, hfind] at h
      split at h
      · next hk =>
        subst hk
        exact .inl ((snapshot?_of_find? hactive).trans h)
      · exact .inl h
    | refused => exact .inl h
    | founded hfree hanswer _ hfind =>
      rw [snapshot?, hfind] at h
      split at h
      · next hk =>
        subst hk
        cases h
        exact .inr ⟨settings, _, rfl, references_eq_zero_iff.2 hfree, hanswer, rfl⟩
      · exact .inl h
  | stop k =>
    have hstopped := t.stopped_stop k
    rw [call] at h
    generalize t.stop k = r at h hstopped
    cases hstopped with
    | unknown => exact .inl h
    | left hactive _ _ hfind =>
      rw [snapshot?, hfind] at h
      split at h
      · next hk =>
        subst hk
        exact .inl ((snapshot?_of_find? hactive).trans h)
      · exact .inl h
    | emptied _ _ _ hfind =>
      rw [snapshot?, hfind] at h
      split at h
      · cases h
      · exact .inl h
  | serve answer => exact .inl h

/-! ## What a run has founded -/

/-- A job has been founded within calls, has had workers ever since, and its snapshot has the sets
that the source gave at that moment, in the order of their keys, as far as the settings of the
first worker leave them on. -/
def Founded (t : JobTable) (calls : List Call) (job : UInt64) (s : JobSnapshot) : Prop :=
  ∃ before settings after sets, calls = before ++ .start job settings :: after ∧
    (t.run before).references job = 0 ∧
    (t.run before).source.answer (t.run before).source.asked = .ok sets ∧
    (∀ front, front <+: after →
      0 < (t.run (before ++ .start job settings :: front)).references job) ∧
    s = ⟨job, sets.values.filter fun set => settings.isEnabled set.name⟩

/-- One more call, after which the job still has workers. -/
theorem Founded.concat (h : t.Founded calls job s)
    (hstaffed : 0 < (t.run (calls ++ [c])).references job) : t.Founded (calls ++ [c]) job s := by
  obtain ⟨before, settings, after, sets, rfl, hzero, hanswer, hpositive, hs⟩ := h
  have hsplit : before ++ .start job settings :: after ++ [c] =
      before ++ .start job settings :: (after ++ [c]) := by
    rw [List.append_assoc, List.cons_append]
  refine ⟨before, settings, after ++ [c], sets, hsplit, hzero, hanswer, ?_, hs⟩
  intro front hfront
  rcases List.prefix_concat_iff.1 hfront with rfl | hold
  · exact hsplit ▸ hstaffed
  · exact hpositive front hold

/-- Whatever snapshot a run has led to, the run has founded the job with it. -/
theorem founded_of_snapshot? (source : DefinitionsSource) (calls : List Call)
    (h : (run { source } calls).snapshot? job = some s) : Founded { source } calls job s := by
  induction calls using List.reverseRecOn with
  | nil => cases h
  | append_singleton calls c ih =>
    have hstaffed : 0 < (run { source } (calls ++ [c])).references job := by
      rw [← isSome_snapshot?_iff, h]
      rfl
    rw [run_concat] at h
    rcases snapshot?_call h with hold | ⟨settings, sets, rfl, hzero, hanswer, hs⟩
    · exact (ih hold).concat hstaffed
    · refine ⟨calls, settings, [], sets, rfl, hzero, hanswer, ?_, hs⟩
      intro front hfront
      rw [List.prefix_nil.1 hfront]
      exact hstaffed

/-! ## What is handed out, and what the source is asked -/

/-- What a worker is handed is what the job has from then on. -/
theorem snapshot?_start {settings : JobSettings} (h : (t.start job settings).1 = .ok s) :
    (t.start job settings).2.snapshot? job = some s := by
  obtain ⟨new, hfind, -, hsnapshot, -⟩ := exists_find?_start (Prod.ext h rfl)
  rw [snapshot?, hfind, if_pos rfl, Option.map_some, hsnapshot]

/-- Who joins a job that has a snapshot is handed it. -/
theorem start_of_snapshot? (h : t.snapshot? job = some s) (settings : JobSettings) :
    (t.start job settings).1 = .ok s := by
  obtain ⟨active, hactive, rfl⟩ := Option.map_eq_some_iff.1 h
  have hstarted := t.started_start job settings
  generalize t.start job settings = r at hstarted
  cases hstarted with
  | joined hother =>
    rw [hactive] at hother
    cases hother
    rfl
  | refused hfree =>
    rw [hactive] at hfree
    cases hfree
  | founded hfree =>
    rw [hactive] at hfree
    cases hfree

/-- The first worker is handed what the definitions of the moment and its settings make. -/
theorem start_of_answer (hfree : t.references job = 0) {sets : Definitions}
    (hanswer : t.source.answer t.source.asked = .ok sets) (settings : JobSettings) :
    (t.start job settings).1 =
      .ok ⟨job, sets.values.filter fun set => settings.isEnabled set.name⟩ := by
  have hstarted := t.started_start job settings
  generalize t.start job settings = r at hstarted
  cases hstarted with
  | joined hactive =>
    have hpos := references_pos_iff.2 ⟨_, hactive⟩
    exact absurd hfree (Nat.ne_of_gt hpos)
  | refused _ herror =>
    rw [hanswer] at herror
    cases herror
  | founded _ hsets =>
    rw [hanswer] at hsets
    cases hsets
    rfl

/-- The source is asked once by a first worker, and not by one that joins others. -/
theorem asked_start (t : JobTable) (job : UInt64) (settings : JobSettings) :
    (t.start job settings).2.source.asked =
      t.source.asked + (if t.references job = 0 then 1 else 0) := by
  have hstarted := t.started_start job settings
  generalize t.start job settings = r at hstarted
  cases hstarted with
  | joined hactive hsource _ =>
    have hpos := references_pos_iff.2 ⟨_, hactive⟩
    rw [hsource, if_neg (Nat.ne_of_gt hpos), Nat.add_zero]
  | refused hfree => rw [if_pos (references_eq_zero_iff.2 hfree)]
  | founded hfree _ hsource _ => rw [hsource, if_pos (references_eq_zero_iff.2 hfree)]

/-- A worker fails to join only as the first one, because the source fails, and then no job
changes. -/
theorem start_error {settings : JobSettings} {e : IngestError}
    (h : (t.start job settings).1 = .error e) :
    t.references job = 0 ∧
      (∃ cause, t.source.answer t.source.asked = .error cause ∧
        e = .definitionsUnavailable job cause) ∧
      (t.start job settings).2 =
        { t with source := { t.source with asked := t.source.asked + 1 } } := by
  have hstarted := t.started_start job settings
  generalize t.start job settings = r at h hstarted
  cases hstarted with
  | joined => cases h
  | refused hfree hanswer =>
    cases h
    exact ⟨references_eq_zero_iff.2 hfree, ⟨_, hanswer, rfl⟩, rfl⟩
  | founded => cases h

/-- The last worker to leave gives the snapshot up. -/
theorem stop_eq_true_iff (t : JobTable) (job : UInt64) :
    (t.stop job).1 = true ↔ t.references job = 1 ∧ (t.stop job).2.references job = 0 := by
  have hstopped := t.stopped_stop job
  generalize t.stop job = r at hstopped
  cases hstopped with
  | unknown hfree =>
    have hzero := references_eq_zero_iff.2 hfree
    simp [hzero]
  | left hactive hmore _ _ =>
    have hreferences := references_of_find? hactive
    simp only [Bool.false_eq_true, false_iff]
    omega
  | emptied hactive hlast _ hfind =>
    have hnone := hfind job
    rw [if_pos rfl] at hnone
    exact iff_of_true rfl
      ⟨(references_of_find? hactive).trans hlast, references_eq_zero_iff.2 hnone⟩

theorem stop_of_references_eq_zero (h : t.references job = 0) : t.stop job = (false, t) := by
  rw [stop, references_eq_zero_iff.1 h]

theorem source_stop (t : JobTable) (job : UInt64) : (t.stop job).2.source = t.source := by
  have hstopped := t.stopped_stop job
  generalize t.stop job = r at hstopped
  cases hstopped with
  | unknown => rfl
  | left _ _ hsource _ => exact hsource
  | emptied _ _ hsource _ => exact hsource

/-- Jobs are isolated from one another and from changes of the definitions.  At every moment of
every run, the snapshot that a job has and the one that a worker is handed are those that the job
has been founded with.  The source is asked once by each first worker and never otherwise; leaving
gives the snapshot up exactly if it takes the workers from one to none; a start for which there are
no definitions changes no job, and leaving a job that nobody is in changes nothing. -/
theorem run_isolates (source : DefinitionsSource) (calls : List Call) :
    let t := run { source } calls
    (∀ job s, t.snapshot? job = some s → Founded { source } calls job s) ∧
    (∀ job settings s, (t.start job settings).1 = .ok s →
      Founded { source } (calls ++ [.start job settings]) job s) ∧
    (∀ job settings, (t.start job settings).2.source.asked =
      t.source.asked + (if t.references job = 0 then 1 else 0)) ∧
    (∀ job, (t.stop job).2.source = t.source) ∧
    (∀ job, (t.stop job).1 = true ↔ t.references job = 1 ∧ (t.stop job).2.references job = 0) ∧
    (∀ job settings e, (t.start job settings).1 = .error e →
      t.references job = 0 ∧
        (∃ cause, t.source.answer t.source.asked = .error cause ∧
          e = .definitionsUnavailable job cause) ∧
        (t.start job settings).2 =
          { t with source := { t.source with asked := t.source.asked + 1 } }) ∧
    ∀ job, t.references job = 0 → t.stop job = (false, t) := by
  intro t
  refine ⟨fun job s => founded_of_snapshot? source calls, ?_, t.asked_start, t.source_stop,
    t.stop_eq_true_iff, fun job settings e => start_error, fun job => stop_of_references_eq_zero⟩
  intro job settings s hstart
  have hsnapshot := snapshot?_start hstart
  refine founded_of_snapshot? source _ ?_
  rw [run_concat]
  exact hsnapshot

end FileTriage.JobTable
