/-
What one worker does to the workplace.

Leaving and joining a job change the table and the log, and looking at a file changes the case and
the log.  Each of the three is described by an equation for each of its cases.
-/
import FileTriage.Job.Worker

namespace FileTriage

/-- The hits of a file in a job: one for each set of the job that it belongs to, unless the file is
slack space. -/
def JobSnapshot.hits (s : JobSnapshot) (f : FileRecord) (now : Instant) : List Hit :=
  if f.fileType = .slack then []
  else (s.memberships f now).map fun m => .ofFile s.job f m.1 m.2

theorem JobSnapshot.mem_hits {s : JobSnapshot} {f : FileRecord} {now : Instant} {h : Hit} :
    h ∈ s.hits f now ↔
      f.fileType ≠ .slack ∧ ∃ m ∈ s.memberships f now, h = .ofFile s.job f m.1 m.2 := by
  rw [hits]
  split
  · next hslack => simp [hslack]
  · next hslack => simp [hslack, eq_comm]

/-- The case with more hits, and a message about each of them. -/
def CaseFile.take (c : CaseFile) (hits : List Hit) : CaseFile :=
  { c with hits := c.hits ++ hits, messages := c.messages ++ hits.map InboxMessage.ofHit }

/-! ## Reporting and posting -/

namespace Workplace

/-- The workplace after hits have been posted, one after the other. -/
def postAll (p : Workplace) (logger : EventLogger) (hits : List Hit) : Workplace :=
  hits.foldl (fun p h => p.post logger h) p

@[simp] theorem table_report (p : Workplace) (logger : EventLogger) (e : Event) :
    (p.report logger e).table = p.table := rfl

@[simp] theorem table_post (p : Workplace) (logger : EventLogger) (h : Hit) :
    (p.post logger h).table = p.table := by
  rw [post]
  split
  · rfl
  · rfl

@[simp] theorem table_postAll (p : Workplace) (logger : EventLogger) (hits : List Hit) :
    (p.postAll logger hits).table = p.table := by
  induction hits generalizing p with
  | nil => rfl
  | cons h hits ih => exact (ih _).trans (table_post p logger h)

theorem postAll_append (p : Workplace) (logger : EventLogger) (front back : List Hit) :
    p.postAll logger (front ++ back) = (p.postAll logger front).postAll logger back :=
  List.foldl_append

/-- Posting does not open or close a case. -/
@[simp] theorem isOpen_post (p : Workplace) (logger : EventLogger) (h : Hit) :
    (p.post logger h).caseFile.isOpen = p.caseFile.isOpen := by
  rw [post]
  split
  · rfl
  · rfl

@[simp] theorem isOpen_postAll (p : Workplace) (logger : EventLogger) (hits : List Hit) :
    (p.postAll logger hits).caseFile.isOpen = p.caseFile.isOpen := by
  induction hits generalizing p with
  | nil => rfl
  | cons h hits ih => exact (ih _).trans (isOpen_post p logger h)

/-- A hit of another file or another set than all hits of the case is taken. -/
theorem caseFile_post {p : Workplace} {h : Hit} (logger : EventLogger)
    (haccepting : p.caseFile.accepting = true)
    (hfresh : ∀ g ∈ p.caseFile.hits, (g.file, g.set) ≠ (h.file, h.set)) :
    (p.post logger h).caseFile = p.caseFile.take [h] := by
  have hnew : p.caseFile.hits.any h.sameArtifact = false := by
    rw [List.any_eq_false]
    intro g hg hsame
    simp only [Hit.sameArtifact, Bool.and_eq_true, decide_eq_true_eq] at hsame
    exact hfresh g hg (Prod.ext hsame.1.1.symm hsame.1.2.symm)
  rw [post, if_neg]
  · rfl
  · simp [CaseFile.knows, hnew, haccepting]

/-- Hits are all taken if no two of them, nor one of them and one that the case has, are of the
same file and set. -/
theorem caseFile_postAll {p : Workplace} {hits : List Hit} (logger : EventLogger)
    (haccepting : p.caseFile.accepting = true)
    (hfresh : ∀ g ∈ p.caseFile.hits, ∀ h ∈ hits, (g.file, g.set) ≠ (h.file, h.set))
    (hdistinct : hits.Pairwise fun g h => (g.file, g.set) ≠ (h.file, h.set)) :
    (p.postAll logger hits).caseFile = p.caseFile.take hits := by
  induction hits generalizing p with
  | nil => simp [postAll, CaseFile.take]
  | cons h hits ih =>
    have hpost : (p.post logger h).caseFile = p.caseFile.take [h] :=
      caseFile_post logger haccepting fun g hg => hfresh g hg h List.mem_cons_self
    have hrest : ((p.post logger h).postAll logger hits).caseFile =
        (p.post logger h).caseFile.take hits := by
      refine ih ?_ ?_ hdistinct.of_cons
      · rw [hpost]
        exact haccepting
      · rw [hpost]
        intro g hg k hk
        rcases List.mem_append.1 hg with hg | hg
        · exact hfresh g hg k (List.mem_cons_of_mem _ hk)
        · exact List.mem_singleton.1 hg ▸ List.rel_of_pairwise_cons hdistinct hk
    rw [postAll, List.foldl_cons]
    refine hrest.trans ?_
    rw [hpost]
    simp [CaseFile.take]

end Workplace

namespace Worker

variable {w : Worker} {s : JobSnapshot}

theorem jobId?_eq_some_iff {job : UInt64} :
    w.jobId? = some job ↔ ∃ s, w.job = some s ∧ s.job = job :=
  Option.map_eq_some_iff

/-! ## Looking at a file -/

theorem process_of_idle (h : w.job = none) (p : Workplace) (f : FileRecord) (now : Instant) :
    w.process p f now = (false, p) := by
  rw [process, h]

theorem process_of_closed (h : w.job = some s) {p : Workplace} (hclosed : p.caseFile.isOpen = false)
    (f : FileRecord) (now : Instant) :
    w.process p f now = (false, p.report w.logger (.error s.job noCaseMessage)) := by
  rw [process, h]
  simp only [hclosed, Bool.not_false, if_true]

/-- Where a case is open, the worker posts the hits of the file. -/
theorem process_of_open (h : w.job = some s) {p : Workplace} (hopen : p.caseFile.isOpen = true)
    (f : FileRecord) (now : Instant) :
    w.process p f now = (true, p.postAll w.logger (s.hits f now)) := by
  rw [process, h]
  simp only [hopen, Bool.not_true, Bool.false_eq_true, if_false, JobSnapshot.hits]
  split
  · rfl
  · rw [Workplace.postAll, List.foldl_map]

/-- Looking at a file leaves the table as it is. -/
theorem table_process (w : Worker) (p : Workplace) (f : FileRecord) (now : Instant) :
    (w.process p f now).2.table = p.table := by
  cases hjob : w.job with
  | none => rw [process_of_idle hjob]
  | some s =>
    cases hcase : p.caseFile.isOpen with
    | false => rw [process_of_closed hjob hcase, Workplace.table_report]
    | true => rw [process_of_open hjob hcase, Workplace.table_postAll]

/-! ## Leaving a job -/

/-- A worker without a job has nothing to leave. -/
theorem stop_of_idle (h : w.job = none) (p : Workplace) : w.stop p = (w, p) := by
  rw [stop, h]

theorem fst_stop (w : Worker) (p : Workplace) : (w.stop p).1 = { w with job := none } := by
  cases hjob : w.job with
  | none =>
    rw [stop_of_idle hjob, ← hjob]
  | some s => rw [stop, hjob]

theorem table_stop (h : w.job = some s) (p : Workplace) :
    (w.stop p).2.table = (p.table.stop s.job).2 := by
  rw [stop, h]
  simp only
  split
  · rfl
  · rfl

/-- Leaving a job leaves the case as it is. -/
theorem caseFile_stop (w : Worker) (p : Workplace) : (w.stop p).2.caseFile = p.caseFile := by
  cases hjob : w.job with
  | none => rw [stop_of_idle hjob]
  | some s =>
    rw [stop, hjob]
    simp only
    split
    · rfl
    · rfl

/-! ## Joining a job -/

/-- Joining a job is leaving the one before, and then asking the table. -/
theorem start_cases (w : Worker) (p : Workplace) (job : UInt64) :
    (∃ e table, (w.stop p).2.table.start job w.settings = (.error e, table) ∧
      w.start p job = (.error e, { w with job := none }, { (w.stop p).2 with table })) ∨
    (∃ s table, (w.stop p).2.table.start job w.settings = (.ok s, table) ∧
      w.start p job = (.ok (), { w with job := some s },
        Workplace.report { (w.stop p).2 with table } w.logger
          (.jobStarted job s.sets.length))) := by
  have hfst := w.fst_stop p
  rw [start]
  generalize w.stop p = stopped at hfst ⊢
  obtain ⟨w₀, p₀⟩ := stopped
  subst hfst
  simp only
  cases hstart : p₀.table.start job w.settings with
  | mk result table =>
    cases result with
    | error e => exact .inl ⟨e, table, rfl, rfl⟩
    | ok s => exact .inr ⟨s, table, rfl, rfl⟩

/-- Joining a job leaves the case as it is. -/
theorem caseFile_start (w : Worker) (p : Workplace) (job : UInt64) :
    (w.start p job).2.2.caseFile = p.caseFile := by
  rcases w.start_cases p job with ⟨e, table, -, heq⟩ | ⟨s, table, -, heq⟩
  · rw [heq]
    exact w.caseFile_stop p
  · rw [heq]
    exact w.caseFile_stop p

/-- A worker is in a job after joining one, unless it could not. -/
theorem isOk_start_iff (w : Worker) (p : Workplace) (job : UInt64) :
    (w.start p job).1 = .ok () ↔ (w.start p job).2.1.job ≠ none := by
  rcases w.start_cases p job with ⟨e, table, -, heq⟩ | ⟨s, table, -, heq⟩
  · simp [heq]
  · simp [heq]

/-- A worker without a job asks the table and does nothing else to it. -/
theorem table_start_of_idle (h : w.job = none) (p : Workplace) (job : UInt64) :
    (w.start p job).2.2.table = (p.table.start job w.settings).2 := by
  have hcases := w.start_cases p job
  rw [stop_of_idle h] at hcases
  rcases hcases with ⟨e, table, hstart, heq⟩ | ⟨s, table, hstart, heq⟩
  · rw [heq, hstart]
  · rw [heq, hstart]
    rfl

/-- A worker without a job joins one that the table lets it join, which leaves the case as it is. -/
theorem start_of_idle (h : w.job = none) {p : Workplace} {job : UInt64}
    (hstart : (p.table.start job w.settings).1 = .ok s) :
    ∃ p', w.start p job = (.ok (), { w with job := some s }, p') ∧
      p'.table = (p.table.start job w.settings).2 ∧ p'.caseFile = p.caseFile := by
  have hcases := w.start_cases p job
  rw [stop_of_idle h] at hcases
  rcases hcases with ⟨e, table, hgiven, -⟩ | ⟨s', table, hgiven, heq⟩
  · rw [hgiven] at hstart
    cases hstart
  · rw [hgiven] at hstart ⊢
    cases hstart
    exact ⟨_, heq, rfl, rfl⟩

end Worker

end FileTriage
