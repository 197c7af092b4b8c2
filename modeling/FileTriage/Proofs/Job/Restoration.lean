/-
A run gives the table of jobs back as it found it.

The workers of a run leave what they have joined, and whoever is in a job besides them stays.  To
count both, they are put beside others who stand for everybody that the table counts already
(`Crew.exists_tallied`).  The table goes on counting all of them, so once the workers of the run are
in no job it counts what it did before.  That holds in whatever order they come and go, also where
some of them cannot join.
-/
import FileTriage.Proofs.Job.Crew
import FileTriage.Proofs.Job.Schedule

namespace FileTriage

/-! ## Workers beside others -/

namespace Crew

variable {c : Crew} {place place' : Workplace} {workers others : List Worker}

theorem count_append (place : Workplace) (workers others : List Worker) (job : UInt64) :
    (Crew.mk place (workers ++ others)).count job =
      (Crew.mk place workers).count job + (Crew.mk place others).count job :=
  List.countP_append

/-- Workers who are in no job do not count. -/
theorem count_of_idle (hidle : ∀ w ∈ workers, w.job = none) (place : Workplace) (job : UInt64) :
    (Crew.mk place workers).count job = 0 := by
  rw [count, List.countP_eq_zero]
  intro w hw
  simp [Worker.jobId?, hidle w hw]

/-- In which order the workers are listed does not matter. -/
theorem Tallied.perm (h : (Crew.mk place workers).Tallied) (hperm : workers.Perm others) :
    (Crew.mk place others).Tallied := by
  constructor
  · exact h.labelled
  · intro job
    exact (h.references job).trans (hperm.countP_eq _)
  · intro w hw
    exact h.held w (hperm.mem_iff.2 hw)

/-- Workers who are in no job change nothing by coming in. -/
theorem Tallied.welcome (h : (Crew.mk place others).Tallied)
    (hidle : ∀ w ∈ workers, w.job = none) : (Crew.mk place (workers ++ others)).Tallied := by
  constructor
  · exact h.labelled
  · intro job
    rw [count_append, count_of_idle hidle, Nat.zero_add]
    exact h.references job
  · intro w hw s hs
    rcases List.mem_append.1 hw with hw | hw
    · rw [hidle w hw] at hs
      cases hs
    · exact h.held w hw s hs

/-- What a crew does, it also does beside others. -/
theorem Tallied.act_beside (h : (Crew.mk c.place (c.workers ++ others)).Tallied) (a : Action) :
    (Crew.mk (c.act a).place ((c.act a).workers ++ others)).Tallied := by
  have hbeside : ∀ {i w}, c.workers[i]? = some w →
      (c.workers ++ others)[i]? = some w ∧
        ∀ v, (c.workers ++ others).set i v = c.workers.set i v ++ others := by
    intro i w hw
    have hi := (List.getElem?_eq_some_iff.1 hw).1
    exact ⟨(List.getElem?_append_left hi).trans hw, fun v => List.set_append_left _ _ hi⟩
  have hact := h.act a
  cases a with
  | start i job =>
    simp only [Crew.act] at hact ⊢
    cases hw : c.workers[i]? with
    | none => exact h
    | some w =>
      obtain ⟨hget, hset⟩ := hbeside hw
      simp only [hget, hset] at hact
      exact hact
  | process i file now =>
    simp only [Crew.act] at hact ⊢
    cases hw : c.workers[i]? with
    | none => exact h
    | some w =>
      obtain ⟨hget, -⟩ := hbeside hw
      simp only [hget] at hact
      exact hact
  | stop i =>
    simp only [Crew.act] at hact ⊢
    cases hw : c.workers[i]? with
    | none => exact h
    | some w =>
      obtain ⟨hget, hset⟩ := hbeside hw
      simp only [hget, hset] at hact
      exact hact
  | serve answer => exact hact
  | turnCase isOpen accepting => exact hact

theorem Tallied.run_beside (h : (Crew.mk c.place (c.workers ++ others)).Tallied)
    (actions : List Action) :
    (Crew.mk (c.run actions).place ((c.run actions).workers ++ others)).Tallied := by
  induction actions generalizing c with
  | nil => exact h
  | cons a actions ih => exact ih (h.act_beside a)

/-! ## Everybody who is counted already -/

/-- Whatever has been asked of a table, there are workers that it counts. -/
theorem exists_tallied (source : DefinitionsSource) (calls : List JobTable.Call) :
    ∃ others, (Crew.mk { table := JobTable.run { source } calls } others).Tallied := by
  induction calls using List.reverseRecOn with
  | nil => exact ⟨[], tallied_gather source {} []⟩
  | append_singleton calls call ih =>
    obtain ⟨others, h⟩ := ih
    rw [JobTable.run_concat]
    generalize JobTable.run { source } calls = t at h ⊢
    cases call with
    | start job settings =>
      -- a worker comes in and joins the job
      let w : Worker := { settings }
      have hbeside : (Crew.mk { table := t } ([w] ++ others)).Tallied :=
        h.welcome fun v hv => congrArg Worker.job (List.mem_singleton.1 hv)
      refine ⟨_, (hbeside.act (.start 0 job)).of_same fun k => ?_⟩
      show (t.start job settings).2.find? k = (w.start { table := t } job).2.2.table.find? k
      rw [Worker.table_start_of_idle rfl]
    | stop job =>
      by_cases hzero : t.references job = 0
      · refine ⟨others, h.of_same fun k => ?_⟩
        show (t.stop job).2.find? k = t.find? k
        rw [JobTable.stop_of_references_eq_zero hzero]
      · -- one of those who are counted leaves
        rw [h.references] at hzero
        obtain ⟨w, hw, hjob⟩ := count_pos_iff.1 (Nat.pos_of_ne_zero hzero)
        obtain ⟨s, hs, rfl⟩ := Worker.jobId?_eq_some_iff.1 hjob
        obtain ⟨i, hi⟩ := List.mem_iff_getElem?.1 hw
        have hreleased := h.release hi
        refine ⟨_, hreleased.of_same fun k => ?_⟩
        rw [Worker.table_stop hs]
        rfl
    | serve answer => exact ⟨others, h.of_same fun k => rfl⟩

/-- Once the workers beside the others are in no job, the table has of every job what it had
without them. -/
theorem Tallied.restored (hbefore : (Crew.mk place others).Tallied)
    (hafter : (Crew.mk place' (workers ++ others)).Tallied) (hidle : ∀ w ∈ workers, w.job = none)
    (job : UInt64) :
    place'.table.references job = place.table.references job ∧
      place'.table.snapshot? job = place.table.snapshot? job := by
  have hreferences : place'.table.references job = place.table.references job := by
    rw [hafter.references, hbefore.references, count_append, count_of_idle hidle, Nat.zero_add]
    rfl
  refine ⟨hreferences, ?_⟩
  by_cases hcount : 0 < (Crew.mk place others).count job
  · -- somebody else is in the job, and has the snapshot
    obtain ⟨w, hw, hjob⟩ := count_pos_iff.1 hcount
    obtain ⟨s, hs, rfl⟩ := Worker.jobId?_eq_some_iff.1 hjob
    rw [hafter.held w (List.mem_append_right _ hw) s hs, hbefore.held w hw s hs]
  · have hzero : place.table.references job = 0 := by
      rw [hbefore.references]
      omega
    have hnone : ∀ t : JobTable, t.references job = 0 → t.snapshot? job = none := by
      intro t ht
      rw [JobTable.snapshot?, JobTable.references_eq_zero_iff.1 ht]
      rfl
    rw [hnone _ hzero, hnone _ (hreferences.trans hzero)]

/-- Workers who come to a place where others are counted, and who are in no job in the end, leave
no trace in the table, whatever they have done and in whatever order. -/
theorem Tallied.run_leaves_no_trace (h : (Crew.mk place others).Tallied)
    (hfresh : ∀ w ∈ workers, w.job = none) (actions : List Action)
    (hidle : ∀ w ∈ ((Crew.mk place workers).run actions).workers, w.job = none) (job : UInt64) :
    ((Crew.mk place workers).run actions).place.table.references job =
        place.table.references job ∧
      ((Crew.mk place workers).run actions).place.table.snapshot? job =
        place.table.snapshot? job := by
  have hbeside : (Crew.mk place (workers ++ others)).Tallied := h.welcome hfresh
  exact h.restored (Tallied.run_beside (c := ⟨place, workers⟩) hbeside actions) hidle job

end Crew

namespace JobSpec

variable {spec : JobSpec} {p : Workplace} {others workers leaving : List Worker}

/-! ## Joining -/

/-- The first worker joins, and then the others; the first error counts. -/
theorem joinAll_succ (spec : JobSpec) (logger : EventLogger) (n : Nat) (p : Workplace) :
    let started := Worker.start { settings := spec.settings, logger } p spec.job
    let rest := spec.joinAll logger n started.2.2
    spec.joinAll logger (n + 1) p =
      (match started.1 with
        | .ok () => rest.1
        | .error e => some e,
        started.2.1 :: rest.2.1, rest.2.2) := by
  rw [joinAll]
  generalize Worker.start { settings := spec.settings, logger } p spec.job = started
  obtain ⟨result, w, place⟩ := started
  cases result with
  | ok _ => rfl
  | error e => rfl

/-- No worker fails to join exactly if all of them are in a job then. -/
theorem fst_joinAll_eq_none_iff (spec : JobSpec) (logger : EventLogger) (n : Nat) (p : Workplace) :
    (spec.joinAll logger n p).1 = none ↔ ∀ w ∈ (spec.joinAll logger n p).2.1, w.job ≠ none := by
  induction n generalizing p with
  | zero => simp [joinAll]
  | succ n ih =>
    rw [joinAll_succ, List.forall_mem_cons, ← ih, ← Worker.isOk_start_iff]
    dsimp only
    split
    · next hok => simp [hok]
    · next e herror => simp [herror]

theorem caseFile_joinAll (spec : JobSpec) (logger : EventLogger) (n : Nat) (p : Workplace) :
    (spec.joinAll logger n p).2.2.caseFile = p.caseFile := by
  induction n generalizing p with
  | zero => rfl
  | succ n ih =>
    rw [joinAll_succ]
    exact (ih _).trans (Worker.caseFile_start _ p spec.job)

/-- Workers who join beside others are counted with them. -/
theorem tallied_joinAll (h : (Crew.mk p others).Tallied) (logger : EventLogger) (n : Nat) :
    (Crew.mk (spec.joinAll logger n p).2.2
      ((spec.joinAll logger n p).2.1 ++ others)).Tallied := by
  induction n generalizing p others with
  | zero => exact h
  | succ n ih =>
    rw [joinAll_succ]
    -- the first worker comes in and joins, and is one of the others for the rest
    have hwelcome : (Crew.mk p ([{ settings := spec.settings, logger }] ++ others)).Tallied :=
      h.welcome (by simp)
    have hrest := ih (hwelcome.act (.start 0 spec.job))
    exact hrest.perm List.perm_middle

/-! ## Leaving -/

/-- Workers who leave beside others are no longer counted, and the others are. -/
theorem tallied_leaveAll (h : (Crew.mk p (workers ++ others)).Tallied) :
    (Crew.mk (leaveAll workers p)
      (workers.map (fun w => { w with job := none }) ++ others)).Tallied := by
  induction workers generalizing p others with
  | nil => exact h
  | cons w workers ih =>
    have hleft : (Crew.mk (w.stop p).2 ({ w with job := none } :: (workers ++ others))).Tallied :=
      h.release (i := 0) rfl
    exact (ih (hleft.perm List.perm_middle.symm)).perm List.perm_middle

/-! ## Looking at files -/

theorem table_handle (spec : JobSpec) (workers : List Worker) (now : Instant)
    (state : JobStats × Workplace) (step : Step) :
    (spec.handle workers now state step).2.table = state.2.table := by
  obtain ⟨stats, p⟩ := state
  rw [handle]
  dsimp only
  split
  · rfl
  · split
    · rfl
    · split
      · rfl
      · next w _ => exact w.table_process p step.file now

theorem table_foldl_handle (spec : JobSpec) (workers : List Worker) (now : Instant)
    (schedule : List Step) (state : JobStats × Workplace) :
    (schedule.foldl (spec.handle workers now) state).2.table = state.2.table := by
  induction schedule generalizing state with
  | nil => rfl
  | cons step schedule ih => exact (ih _).trans (table_handle spec workers now state step)

/-! ## The ways a run can go -/

variable {e : IngestError}

theorem runOn_of_outside (h : areWorkersInLimits spec.workers = false) (logger : EventLogger)
    (schedule : List Step) (interrupted : Bool) (now : Instant) (p : Workplace) :
    spec.runOn logger schedule interrupted now p = (.error (.workers spec.workers), p) := by
  rw [runOn, h]
  rfl

/-- Where a worker cannot join, all leave before a file has been looked at. -/
theorem runOn_of_failure {logger : EventLogger} (h : areWorkersInLimits spec.workers = true)
    (hfailure : (spec.joinAll logger spec.workers p).1 = some e) (schedule : List Step)
    (interrupted : Bool) (now : Instant) :
    spec.runOn logger schedule interrupted now p =
      (.error (.ingest e), leaveAll (spec.joinAll logger spec.workers p).2.1
        (spec.joinAll logger spec.workers p).2.2) := by
  rw [runOn, h]
  generalize spec.joinAll logger spec.workers p = joined at hfailure ⊢
  obtain ⟨failure, workers, place⟩ := joined
  cases hfailure
  rfl

/-- Where all workers have joined, they look at the files and then leave. -/
theorem runOn_of_joined {logger : EventLogger} (h : areWorkersInLimits spec.workers = true)
    (hjoined : (spec.joinAll logger spec.workers p).1 = none) (schedule : List Step)
    (interrupted : Bool) (now : Instant) :
    ∃ stats place, place.table = (spec.joinAll logger spec.workers p).2.2.table ∧
      spec.runOn logger schedule interrupted now p =
        (.ok stats, leaveAll (spec.joinAll logger spec.workers p).2.1 place) := by
  rw [runOn, h]
  generalize spec.joinAll logger spec.workers p = joined at hjoined ⊢
  obtain ⟨failure, workers, place⟩ := joined
  cases hjoined
  exact ⟨_, _, table_foldl_handle spec workers now schedule ({}, place), rfl⟩

/-- However a run goes, it leaves the table to those who were counted before. -/
theorem tallied_runOn (h : (Crew.mk p others).Tallied) (logger : EventLogger)
    (schedule : List Step) (interrupted : Bool) (now : Instant) :
    ∃ workers, (∀ w ∈ workers, w.job = none) ∧
      (Crew.mk (spec.runOn logger schedule interrupted now p).2 (workers ++ others)).Tallied := by
  have hjoined : (Crew.mk (spec.joinAll logger spec.workers p).2.2
      ((spec.joinAll logger spec.workers p).2.1 ++ others)).Tallied :=
    tallied_joinAll h logger spec.workers
  have hidle : ∀ workers : List Worker,
      ∀ w ∈ workers.map (fun w => { w with job := none }), w.job = none := by
    intro workers w hw
    obtain ⟨v, -, rfl⟩ := List.mem_map.1 hw
    rfl
  cases hlimits : areWorkersInLimits spec.workers with
  | false =>
    rw [runOn_of_outside hlimits]
    exact ⟨[], by simp, h⟩
  | true =>
    cases hfailure : (spec.joinAll logger spec.workers p).1 with
    | some e =>
      rw [runOn_of_failure hlimits hfailure]
      exact ⟨_, hidle _, tallied_leaveAll hjoined⟩
    | none =>
      obtain ⟨stats, place, htable, hrun⟩ :=
        runOn_of_joined hlimits hfailure schedule interrupted now
      rw [hrun]
      have hlooked : (Crew.mk place
          ((spec.joinAll logger spec.workers p).2.1 ++ others)).Tallied :=
        hjoined.of_same fun k => by rw [htable]
      exact ⟨_, hidle _, tallied_leaveAll hlooked⟩

/-- A run fails exactly if there may not be so many workers or one of them cannot join. -/
theorem exists_error_runOn_iff (spec : JobSpec) (logger : EventLogger) (schedule : List Step)
    (interrupted : Bool) (now : Instant) (p : Workplace) :
    (∃ e, (spec.runOn logger schedule interrupted now p).1 = .error e) ↔
      areWorkersInLimits spec.workers = false ∨
        ∃ w ∈ (spec.joinAll logger spec.workers p).2.1, w.job = none := by
  cases hlimits : areWorkersInLimits spec.workers with
  | false => simp [runOn_of_outside hlimits]
  | true =>
    have hjob := fst_joinAll_eq_none_iff spec logger spec.workers p
    cases hfailure : (spec.joinAll logger spec.workers p).1 with
    | some e =>
      rw [hfailure] at hjob
      simpa [runOn_of_failure hlimits hfailure] using hjob
    | none =>
      obtain ⟨stats, place, -, hrun⟩ := runOn_of_joined hlimits hfailure schedule interrupted now
      rw [hfailure] at hjob
      simpa [hrun] using hjob

/-- A run that fails leaves the case as it is, and goes the same way whatever files it is given. -/
theorem runOn_of_error {logger : EventLogger} {schedule : List Step} {interrupted : Bool}
    {now : Instant} {failure : RunError}
    (h : (spec.runOn logger schedule interrupted now p).1 = .error failure) :
    (spec.runOn logger schedule interrupted now p).2.caseFile = p.caseFile ∧
      ∀ other, spec.runOn logger other interrupted now p =
        spec.runOn logger schedule interrupted now p := by
  cases hlimits : areWorkersInLimits spec.workers with
  | false => simp [runOn_of_outside hlimits]
  | true =>
    cases hfailure : (spec.joinAll logger spec.workers p).1 with
    | some e => simp [runOn_of_failure hlimits hfailure, caseFile_leaveAll, caseFile_joinAll]
    | none =>
      obtain ⟨stats, place, -, hrun⟩ := runOn_of_joined hlimits hfailure schedule interrupted now
      rw [hrun] at h
      cases h

/-- Whatever a table has been asked before, who is in its jobs, and when its source answers: a run
leaves the references and the snapshot of every job as they were, however it goes, and so do its
workers in any other order of joining, looking at files and leaving, once all of them are in no job.
A run fails exactly if there may not be so many workers or one of them cannot join; then the case is
as it was, and the run would have gone the same way with any other files.  With a number of workers
that may not be, nothing at all changes, and the source has not been asked. -/
theorem runOn_leaves_no_trace (source : DefinitionsSource) (calls : List JobTable.Call)
    (caseFile : CaseFile) (log : List Event) (spec : JobSpec) (logger : EventLogger)
    (schedule : List Step) (interrupted : Bool) (now : Instant) :
    let p : Workplace := { table := JobTable.run { source } calls, caseFile, log }
    let ran := spec.runOn logger schedule interrupted now p
    (∀ job, ran.2.table.references job = p.table.references job ∧
      ran.2.table.snapshot? job = p.table.snapshot? job) ∧
    (∀ actions, let crew := (Crew.mk p
        (List.replicate spec.workers { settings := spec.settings, logger })).run actions
      (∀ w ∈ crew.workers, w.job = none) →
        ∀ job, crew.place.table.references job = p.table.references job ∧
          crew.place.table.snapshot? job = p.table.snapshot? job) ∧
    ((∃ e, ran.1 = .error e) ↔ areWorkersInLimits spec.workers = false ∨
      ∃ w ∈ (spec.joinAll logger spec.workers p).2.1, w.job = none) ∧
    (∀ e, ran.1 = .error e → ran.2.caseFile = p.caseFile ∧
      ∀ other, spec.runOn logger other interrupted now p = ran) ∧
    (areWorkersInLimits spec.workers = false → ran = (.error (.workers spec.workers), p)) := by
  intro p ran
  obtain ⟨others, hempty⟩ := Crew.exists_tallied source calls
  have hbefore : (Crew.mk p others).Tallied := hempty.of_same fun k => rfl
  refine ⟨?_, ?_, exists_error_runOn_iff spec logger schedule interrupted now p,
    fun e => runOn_of_error, fun h => runOn_of_outside h logger schedule interrupted now p⟩
  · obtain ⟨workers, hidle, hafter⟩ := tallied_runOn hbefore logger schedule interrupted now
    exact hbefore.restored hafter hidle
  · intro actions crew hidle
    exact hbefore.run_leaves_no_trace (fun w hw => by rw [List.eq_of_mem_replicate hw]) actions
      hidle

/-- A source that fails when it is asked for the first time, and then no more. -/
def flakyPlace : Workplace where
  table := {
    source := {
      answer := fun n => match n with
        | 0 => .error (.io "sets" .notFound)
        | _ => .ok .empty } }

/-- The second worker joins where the first could not, and both have left in the end. -/
example : (pairJob.joinAll {} 2 flakyPlace).2.1.map Worker.jobId? = [none, some 1] ∧
    (pairJob.runOn {} pairSchedule false .epoch flakyPlace).1 =
      .error (.ingest (.definitionsUnavailable 1 (.io "sets" .notFound))) ∧
    (pairJob.runOn {} pairSchedule false .epoch flakyPlace).2.table.references 1 = 0 := by
  decide

end JobSpec

end FileTriage
