/-
The events of a job come in blocks.

A block begins when a worker finds the job without a snapshot and takes one, and ends when the last
worker leaves and gives the snapshot up.  In between there are events of workers that join, of hits
and of errors.  Each worker only reports what it sees of the table and of its own job, so an event
falls into an open block because a worker that has a job is counted in the table (`Crew.Tallied`).
-/
import FileTriage.Proofs.Job.Posting

namespace FileTriage

/-! ## Blocks -/

namespace Event

/-- The job that an event is about. -/
def job? : Event → Option UInt64
  | jobStarted job _ | jobFinished job | error job _ => some job
  | interestingFile hit => some hit.job
  | startup .. | reconciled _ => none

/-- The events of a job, in order. -/
def ofJob (job : UInt64) (log : List Event) : List Event := log.filter fun e => e.job? = some job

/-- What may happen in a block of a job. -/
inductive Within (job : UInt64) : Event → Prop where
  | started (setCount : Nat) : Within job (.jobStarted job setCount)
  | found {hit : Hit} (hjob : hit.job = job) : Within job (.interestingFile hit)
  | failed (message : String) : Within job (.error job message)

/-- A block that has begun and not ended. -/
def OpenBlock (job : UInt64) (events : List Event) : Prop :=
  ∃ setCount body, events = .jobStarted job setCount :: body ∧ ∀ e ∈ body, Within job e

/-- A block that has ended. -/
def ClosedBlock (job : UInt64) (events : List Event) : Prop :=
  ∃ block, OpenBlock job block ∧ events = block ++ [.jobFinished job]

/-- Blocks one after the other, all of which have ended, and one more that has not if there is to
be one. -/
def Bracketed (job : UInt64) (isOpen : Bool) (events : List Event) : Prop :=
  ∃ (blocks : List (List Event)) (rest : List Event), events = blocks.flatten ++ rest ∧
    (∀ block ∈ blocks, ClosedBlock job block) ∧
      if isOpen then OpenBlock job rest else rest = []

variable {job k : UInt64} {events news : List Event} {e : Event}

theorem Within.job?_eq (h : Within job e) : e.job? = some job := by
  cases h with
  | started setCount => rfl
  | found hjob => exact congrArg some hjob
  | failed message => rfl

theorem bracketed_nil (job : UInt64) : Bracketed job false [] :=
  ⟨[], [], rfl, by simp, rfl⟩

theorem Bracketed.begin (h : Bracketed job false events) (setCount : Nat) :
    Bracketed job true (events ++ [.jobStarted job setCount]) := by
  obtain ⟨blocks, rest, rfl, hblocks, hrest⟩ := h
  obtain rfl : rest = [] := hrest
  exact ⟨blocks, _, by rw [List.append_nil], hblocks, setCount, [], rfl, by simp⟩

theorem Bracketed.append (h : Bracketed job true events) (hnews : ∀ e ∈ news, Within job e) :
    Bracketed job true (events ++ news) := by
  obtain ⟨blocks, rest, rfl, hblocks, setCount, body, rfl, hbody⟩ := h
  refine ⟨blocks, _, List.append_assoc _ _ _, hblocks, setCount, body ++ news, rfl, ?_⟩
  exact List.forall_mem_append.2 ⟨hbody, hnews⟩

theorem Bracketed.finish (h : Bracketed job true events) :
    Bracketed job false (events ++ [.jobFinished job]) := by
  obtain ⟨blocks, rest, rfl, hblocks, hrest⟩ := h
  refine ⟨blocks ++ [rest ++ [.jobFinished job]], [], by simp, ?_, rfl⟩
  exact List.forall_mem_append.2 ⟨hblocks, by simpa using ⟨rest, hrest, rfl⟩⟩

/-! ## Logs -/

theorem ofJob_append (job : UInt64) (log news : List Event) :
    ofJob job (log ++ news) = ofJob job log ++ ofJob job news :=
  List.filter_append ..

theorem ofJob_of_about (h : ∀ e ∈ news, e.job? = some job) : ofJob job news = news :=
  List.filter_eq_self.2 fun e he => decide_eq_true (h e he)

theorem ofJob_of_about_other (h : ∀ e ∈ news, e.job? = some job) (hne : job ≠ k) :
    ofJob k news = [] := by
  refine List.filter_eq_nil_iff.2 fun e he => ?_
  rw [h e he]
  simpa using hne

end Event

open Event (Within ofJob)

/-! ## What a log says of a table -/

namespace Workplace

variable {p p' : Workplace} {job : UInt64} {news : List Event} {e : Event}

/-- The events of every job come in blocks, and the last one is open exactly if the job has a
snapshot. -/
def Bracketed (p : Workplace) : Prop :=
  ∀ job, Event.Bracketed job (p.table.snapshot? job).isSome (ofJob job p.log)

/-- Where events of one job are logged and nothing changes about the others, only this job is to be
looked at. -/
theorem Bracketed.of_about (h : p.Bracketed) (job : UInt64) (hlog : p'.log = p.log ++ news)
    (habout : ∀ e ∈ news, e.job? = some job)
    (hothers : ∀ k, job ≠ k →
      (p'.table.snapshot? k).isSome = (p.table.snapshot? k).isSome)
    (hjob : Event.Bracketed job (p'.table.snapshot? job).isSome (ofJob job p.log ++ news)) :
    p'.Bracketed := by
  intro k
  rw [hlog, Event.ofJob_append]
  by_cases hk : job = k
  · subst hk
    rwa [Event.ofJob_of_about habout]
  · rw [Event.ofJob_of_about_other habout hk, List.append_nil, hothers k hk]
    exact h k

/-- Events within a block of a job that has a snapshot. -/
theorem Bracketed.of_within (h : p.Bracketed) (hactive : (p.table.snapshot? job).isSome = true)
    (hlog : p'.log = p.log ++ news) (htable : p'.table = p.table)
    (hnews : ∀ e ∈ news, Within job e) : p'.Bracketed := by
  refine h.of_about job hlog (fun e he => (hnews e he).job?_eq) (fun k _ => by rw [htable]) ?_
  have hopen := h job
  rw [hactive] at hopen
  rw [htable, hactive]
  exact hopen.append hnews

theorem Bracketed.of_same (h : p.Bracketed) (hlog : p'.log = p.log)
    (hsame : ∀ k, (p'.table.snapshot? k).isSome = (p.table.snapshot? k).isSome) :
    p'.Bracketed := by
  intro k
  rw [hlog, hsame k]
  exact h k

/-- Of hits that are posted, those that the case takes are reported. -/
theorem log_postAll (p : Workplace) {logger : EventLogger} (hlogger : logger.errorsOnly = false)
    (hits : List Hit) :
    (p.postAll logger hits).log = p.log ++ (p.caseFile.taken hits).map .interestingFile := by
  induction hits generalizing p with
  | nil => exact (List.append_nil _).symm
  | cons h hits ih =>
    show ((p.post logger h).postAll logger hits).log = _
    rw [ih, caseFile_post_eq, CaseFile.taken, post]
    split
    · rfl
    · simp [report, EventLogger.lines, EventLogger.logs, hlogger]

end Workplace

/-! ## What workers report -/

namespace Worker

variable {w : Worker} {s : JobSnapshot} {p : Workplace} {job : UInt64}

theorem snd_stop (h : w.job = some s) (p : Workplace) :
    (w.stop p).2 =
      if (p.table.stop s.job).1 then
        Workplace.report { p with table := (p.table.stop s.job).2 } w.logger (.jobFinished s.job)
      else { p with table := (p.table.stop s.job).2 } := by
  rw [stop, h]

/-- A worker that leaves its job either changes nothing about which jobs have a snapshot, and says
nothing, or gives up the snapshot of its job and reports that the job has finished. -/
theorem stop_reports (hlogger : w.logger.errorsOnly = false) (p : Workplace) :
    ((w.stop p).2.log = p.log ∧
      ∀ k, ((w.stop p).2.table.snapshot? k).isSome = (p.table.snapshot? k).isSome) ∨
    ∃ job, (w.stop p).2.log = p.log ++ [.jobFinished job] ∧
      (p.table.snapshot? job).isSome = true ∧
      ∀ k, (w.stop p).2.table.snapshot? k = if job = k then none else p.table.snapshot? k := by
  cases hjob : w.job with
  | none =>
    rw [stop_of_idle hjob]
    exact .inl ⟨rfl, fun k => rfl⟩
  | some s =>
    have hstopped := p.table.stopped_stop s.job
    rw [snd_stop hjob]
    generalize p.table.stop s.job = r at hstopped ⊢
    cases hstopped with
    | unknown hfree => exact .inl ⟨rfl, fun k => rfl⟩
    | left hactive hmore _ hfind =>
      refine .inl ⟨rfl, fun k => ?_⟩
      simp only [Bool.false_eq_true, if_false, JobTable.snapshot?, hfind]
      split
      · next hk =>
        rw [← hk, hactive]
        rfl
      · rfl
    | emptied hactive _ _ hfind =>
      refine .inr ⟨s.job, ?_, ?_, fun k => ?_⟩
      · simp [Workplace.report, EventLogger.lines, EventLogger.logs, hlogger]
      · rw [JobTable.snapshot?_of_find? hactive]
        rfl
      · simp only [if_true, Workplace.table_report, JobTable.snapshot?, hfind]
        split
        · rfl
        · rfl

/-- Whether a worker that leaves its job gives up the snapshot of a job. -/
def frees (w : Worker) (p : Workplace) (job : UInt64) : Bool :=
  (p.table.snapshot? job).isSome && !((w.stop p).2.table.snapshot? job).isSome

/-- A worker that leaves its job ends the block of that job if it gives up the snapshot, and no
other block. -/
theorem stop_keeps (hlogger : w.logger.errorsOnly = false) (h : p.Bracketed) :
    (w.stop p).2.Bracketed ∧ ∃ news, (w.stop p).2.log = p.log ++ news ∧
      ∀ job, news.count (.jobFinished job) = if w.frees p job then 1 else 0 := by
  rcases w.stop_reports hlogger p with ⟨hlog, hsame⟩ | ⟨job, hlog, hactive, hfreed⟩
  · refine ⟨h.of_same hlog hsame, [], by rw [hlog, List.append_nil], fun k => ?_⟩
    rw [frees, hsame, Bool.and_not_self]
    rfl
  · refine ⟨h.of_about job hlog (by simp [Event.job?]) (fun k hk => ?_) ?_, _, hlog, fun k => ?_⟩
    · rw [hfreed, if_neg hk]
    · have hopen := h job
      rw [hactive] at hopen
      rw [hfreed, if_pos rfl]
      exact hopen.finish
    · rw [frees, hfreed]
      by_cases hk : job = k
      · subst hk
        simp [hactive]
      · rw [if_neg hk, Bool.and_not_self]
        simp [hk]

/-- A worker that joins a job first leaves the one before.  It begins a block of the new job unless
one is open, and ends none. -/
theorem start_keeps (hlogger : w.logger.errorsOnly = false) (h : p.Bracketed) (job : UInt64) :
    (w.start p job).2.2.Bracketed ∧ ∃ news, (w.start p job).2.2.log = p.log ++ news ∧
      ∀ k, news.count (.jobFinished k) = if w.frees p k then 1 else 0 := by
  obtain ⟨hleft, news, hnews, hcount⟩ := w.stop_keeps hlogger h
  rcases w.start_cases p job with ⟨e, table, hstart, heq⟩ | ⟨s, table, hstart, heq⟩
  · rw [heq]
    refine ⟨hleft.of_same rfl fun k => ?_, news, hnews, hcount⟩
    exact congrArg Option.isSome (JobTable.snapshot?_congr (JobTable.find?_start_error hstart k))
  · rw [heq]
    obtain ⟨new, hfind, -⟩ := JobTable.exists_find?_start hstart
    have hlog : (Workplace.report { (w.stop p).2 with table } w.logger
        (.jobStarted job s.sets.length)).log =
        (w.stop p).2.log ++ [.jobStarted job s.sets.length] := by
      simp [Workplace.report, EventLogger.lines, EventLogger.logs, hlogger]
    refine ⟨hleft.of_about job hlog (by simp [Event.job?]) (fun k hk => ?_) ?_,
      news ++ [.jobStarted job s.sets.length], by rw [hlog, hnews, List.append_assoc], fun k => ?_⟩
    · rw [Workplace.table_report, JobTable.snapshot?, hfind, if_neg hk]
      rfl
    · have hactive : (table.snapshot? job).isSome = true := by
        rw [JobTable.snapshot?, hfind, if_pos rfl]
        rfl
      rw [Workplace.table_report, hactive]
      have hbefore := hleft job
      cases hopen : ((w.stop p).2.table.snapshot? job).isSome with
      | false =>
        rw [hopen] at hbefore
        exact hbefore.begin _
      | true =>
        rw [hopen] at hbefore
        exact hbefore.append (by simpa using Within.started _)
    · rw [List.count_append, hcount]
      rfl

/-- A worker looks at a file, and the sink fails for some of its hits. -/
def look (w : Worker) (p : Workplace) (f : FileRecord) (now : Instant) (fails : Hit → Bool) :
    Workplace :=
  match w.job with
  | none => p
  | some s =>
    if !p.caseFile.isOpen then p.report w.logger (.error s.job noCaseMessage)
    else p.postAll w.logger ((s.hits f now).filter fun h => !fails h)

/-- Where the sink fails for no hit, that is to look at the file. -/
theorem look_never (w : Worker) (p : Workplace) (f : FileRecord) (now : Instant) :
    w.look p f now (fun _ => false) = (w.process p f now).2 := by
  rw [look]
  cases hjob : w.job with
  | none => rw [process_of_idle hjob]
  | some s =>
    cases hopen : p.caseFile.isOpen with
    | false =>
      rw [process_of_closed hjob hopen]
      rfl
    | true =>
      rw [process_of_open hjob hopen]
      simp

theorem table_look (w : Worker) (p : Workplace) (f : FileRecord) (now : Instant)
    (fails : Hit → Bool) : (w.look p f now fails).table = p.table := by
  rw [look]
  split
  · rfl
  · split
    · rfl
    · exact Workplace.table_postAll ..

/-- A worker that looks at a file reports hits and errors of its job, and nothing if it has none. -/
theorem look_reports (hlogger : w.logger.errorsOnly = false) (p : Workplace) (f : FileRecord)
    (now : Instant) (fails : Hit → Bool) :
    ∃ news, (w.look p f now fails).log = p.log ++ news ∧
      ∀ e ∈ news, ∃ s, w.job = some s ∧ Within s.job e := by
  cases hjob : w.job with
  | none => exact ⟨[], by rw [look, hjob, List.append_nil], by simp⟩
  | some s =>
    rw [look, hjob]
    cases hopen : p.caseFile.isOpen with
    | false =>
      refine ⟨[.error s.job noCaseMessage], ?_, ?_⟩
      · simp [Workplace.report, EventLogger.lines, EventLogger.logs, hlogger]
      · intro e he
        obtain rfl := List.mem_singleton.1 he
        exact ⟨s, rfl, .failed _⟩
    | true =>
      refine ⟨_, Workplace.log_postAll p hlogger _, ?_⟩
      intro e he
      obtain ⟨h, hh, rfl⟩ := List.mem_map.1 he
      have hposted := List.mem_of_mem_filter ((CaseFile.taken_sublist _ _).subset hh)
      obtain ⟨-, m, -, rfl⟩ := JobSnapshot.mem_hits.1 hposted
      exact ⟨s, rfl, .found rfl⟩

end Worker

/-! ## Runs of a crew -/

namespace Crew

/-- What a crew does, also at a sink that fails for some of the hits of a file. -/
inductive Turn where
  | action (a : Action)
  | look (worker : Nat) (file : FileRecord) (now : Instant) (fails : Hit → Bool)

/-- The crew after a turn; a worker that does not exist does nothing. -/
def turn (c : Crew) : Turn → Crew
  | .action a => c.act a
  | .look i file now fails =>
    match c.workers[i]? with
    | none => c
    | some w => { c with place := w.look c.place file now fails }

/-- The crew after turns. -/
def runTurns (c : Crew) (turns : List Turn) : Crew := turns.foldl turn c

/-- Whether a worker that leaves its job in this turn gives up the snapshot of a job. -/
def frees (c : Crew) (job : UInt64) : Turn → Bool
  | .action (.start i _) | .action (.stop i) =>
    match c.workers[i]? with
    | none => false
    | some w => w.frees c.place job
  | _ => false

/-- The workers are counted, report everything, and what they report comes in blocks. -/
structure Reporting (c : Crew) : Prop where
  tallied : c.Tallied
  logging : ∀ w ∈ c.workers, w.logger.errorsOnly = false
  bracketed : c.place.Bracketed

/-- After a turn the log has more events, of which those that a job has finished are of the jobs
whose snapshots have been given up. -/
structure Accounted (c : Crew) (t : Turn) : Prop where
  reporting : (c.turn t).Reporting
  finished : ∃ news, (c.turn t).place.log = c.place.log ++ news ∧
    ∀ job, news.count (.jobFinished job) = if c.frees job t then 1 else 0

variable {c : Crew} {i : Nat} {w : Worker}

/-- Whatever a worker becomes, it keeps its logger. -/
theorem logging_set {v : Worker} (h : ∀ w ∈ c.workers, w.logger.errorsOnly = false)
    (hv : v.logger.errorsOnly = false) : ∀ w ∈ c.workers.set i v, w.logger.errorsOnly = false := by
  intro u hu
  rcases List.mem_or_eq_of_mem_set hu with hu | rfl
  · exact h u hu
  · exact hv

variable {t : Turn}

/-- A turn that changes nothing. -/
theorem Reporting.accounted_of_eq (h : c.Reporting) (hturn : c.turn t = c)
    (hfrees : ∀ job, c.frees job t = false) : c.Accounted t := by
  refine ⟨by rwa [hturn], [], by rw [hturn, List.append_nil], fun job => ?_⟩
  rw [hfrees]
  rfl

/-- A turn in which a worker leaves a job, joins one, or both. -/
theorem Reporting.accounted_of_keeps (h : c.Reporting) {place : Workplace} {v : Worker}
    (hturn : c.turn t = { place, workers := c.workers.set i v }) (htallied : (c.turn t).Tallied)
    (hv : v.logger.errorsOnly = false)
    (hkeeps : place.Bracketed ∧ ∃ news, place.log = c.place.log ++ news ∧
      ∀ job, news.count (.jobFinished job) = if c.frees job t then 1 else 0) : c.Accounted t := by
  obtain ⟨hbracketed, hfinished⟩ := hkeeps
  rw [hturn] at htallied
  refine ⟨?_, by rwa [hturn]⟩
  rw [hturn]
  exact ⟨htallied, logging_set h.logging hv, hbracketed⟩

theorem Reporting.accounted_stop (h : c.Reporting) (i : Nat) : c.Accounted (.action (.stop i)) := by
  have htallied : (c.turn (.action (.stop i))).Tallied := h.tallied.act (.stop i)
  cases hw : c.workers[i]? with
  | none => exact h.accounted_of_eq (by rw [turn, act, hw]) fun k => by rw [frees, hw]
  | some w =>
    have hlogger := h.logging w (List.mem_of_getElem? hw)
    have hturn : c.turn (.action (.stop i)) =
        { place := (w.stop c.place).2, workers := c.workers.set i (w.stop c.place).1 } := by
      rw [turn, act, hw]
    have hfrees : ∀ k, c.frees k (.action (.stop i)) = w.frees c.place k := by
      intro k
      rw [frees, hw]
    refine h.accounted_of_keeps hturn htallied (by rwa [Worker.fst_stop]) ?_
    simp only [hfrees]
    exact w.stop_keeps hlogger h.bracketed

theorem Reporting.accounted_start (h : c.Reporting) (i : Nat) (job : UInt64) :
    c.Accounted (.action (.start i job)) := by
  have htallied : (c.turn (.action (.start i job))).Tallied := h.tallied.act (.start i job)
  cases hw : c.workers[i]? with
  | none => exact h.accounted_of_eq (by rw [turn, act, hw]) fun k => by rw [frees, hw]
  | some w =>
    have hlogger := h.logging w (List.mem_of_getElem? hw)
    have hturn : c.turn (.action (.start i job)) =
        { place := (w.start c.place job).2.2
          workers := c.workers.set i (w.start c.place job).2.1 } := by
      rw [turn, act, hw]
    have hfrees : ∀ k, c.frees k (.action (.start i job)) = w.frees c.place k := by
      intro k
      rw [frees, hw]
    have hv : (w.start c.place job).2.1.logger.errorsOnly = false := by
      rcases w.start_cases c.place job with ⟨e, table, -, heq⟩ | ⟨s, table, -, heq⟩
      all_goals rwa [heq]
    refine h.accounted_of_keeps hturn htallied hv ?_
    simp only [hfrees]
    exact w.start_keeps hlogger h.bracketed job

theorem Reporting.accounted_look (h : c.Reporting) (i : Nat) (f : FileRecord) (now : Instant)
    (fails : Hit → Bool) : c.Accounted (.look i f now fails) := by
  cases hw : c.workers[i]? with
  | none => exact h.accounted_of_eq (by rw [turn, hw]) fun k => rfl
  | some w =>
    have hmem := List.mem_of_getElem? hw
    have hturn : c.turn (.look i f now fails) = { c with place := w.look c.place f now fails } := by
      rw [turn, hw]
    have htable := w.table_look c.place f now fails
    have htallied : (Crew.mk (w.look c.place f now fails) c.workers).Tallied :=
      h.tallied.of_same fun k => by rw [htable]
    obtain ⟨news, hlog, hwithin⟩ := w.look_reports (h.logging w hmem) c.place f now fails
    have hbracketed : (w.look c.place f now fails).Bracketed := by
      cases hjob : w.job with
      | none =>
        have hnone : news = [] := List.eq_nil_iff_forall_not_mem.2 fun e he => by
          obtain ⟨s, hs, -⟩ := hwithin e he
          rw [hjob] at hs
          cases hs
        rw [hnone, List.append_nil] at hlog
        exact h.bracketed.of_same hlog fun k => by rw [htable]
      | some s =>
        -- a worker that has a job is counted, so the table has its snapshot
        have hactive : (c.place.table.snapshot? s.job).isSome = true := by
          rw [h.tallied.held w hmem s hjob]
          rfl
        refine h.bracketed.of_within hactive hlog htable fun e he => ?_
        obtain ⟨s', hs', he⟩ := hwithin e he
        cases hjob.symm.trans hs'
        exact he
    refine ⟨?_, news, ?_, fun job => ?_⟩
    · rw [hturn]
      exact ⟨htallied, h.logging, hbracketed⟩
    · rw [hturn]
      exact hlog
    · show news.count (.jobFinished job) = 0
      rw [List.count_eq_zero]
      intro hfinished
      obtain ⟨s, -, hwithin⟩ := hwithin _ hfinished
      cases hwithin

/-- What happens around the crew is not reported. -/
theorem Reporting.accounted_around (h : c.Reporting) {a : Action} (htallied : (c.act a).Tallied)
    (hworkers : (c.act a).workers = c.workers) (hlog : (c.act a).place.log = c.place.log)
    (hjobs : (c.act a).place.table.jobs = c.place.table.jobs)
    (hfrees : ∀ job, c.frees job (.action a) = false) : c.Accounted (.action a) := by
  have hsame : ∀ k, (c.act a).place.table.snapshot? k = c.place.table.snapshot? k := by
    intro k
    rw [JobTable.snapshot?, JobTable.find?, hjobs]
    rfl
  refine ⟨⟨htallied, ?_, ?_⟩, [], ?_, fun job => ?_⟩
  · show ∀ w ∈ (c.act a).workers, _
    rw [hworkers]
    exact h.logging
  · exact h.bracketed.of_same hlog fun k => congrArg Option.isSome (hsame k)
  · rw [List.append_nil]
    exact hlog
  · rw [hfrees]
    rfl

theorem Reporting.accounted (h : c.Reporting) (t : Turn) : c.Accounted t := by
  cases t with
  | look i f now fails => exact h.accounted_look i f now fails
  | action a =>
    cases a with
    | start i job => exact h.accounted_start i job
    | stop i => exact h.accounted_stop i
    | process i f now =>
      -- at a sink that never fails
      have hlook := h.accounted_look i f now fun _ => false
      have hturn : c.turn (.action (.process i f now)) = c.turn (.look i f now fun _ => false) := by
        rw [turn, turn, act]
        cases c.workers[i]? with
        | none => rfl
        | some w => simp only [Worker.look_never]
      refine ⟨hturn ▸ hlook.reporting, ?_⟩
      rw [hturn]
      exact hlook.finished
    | serve answer =>
      exact h.accounted_around (h.tallied.act (.serve answer)) rfl rfl rfl fun job => rfl
    | turnCase isOpen accepting =>
      exact h.accounted_around (h.tallied.act (.turnCase isOpen accepting)) rfl rfl rfl
        fun job => rfl

theorem Reporting.runTurns (h : c.Reporting) (turns : List Turn) :
    (c.runTurns turns).Reporting := by
  induction turns generalizing c with
  | nil => exact h
  | cons t turns ih => exact ih (h.accounted t).reporting

theorem reporting_gather (source : DefinitionsSource) (caseFile : CaseFile)
    (settings : List JobSettings) :
    (gather source caseFile (settings.map fun s => (s, {}))).Reporting where
  tallied := tallied_gather source caseFile _
  logging := by
    intro w hw
    rw [gather, List.map_map] at hw
    obtain ⟨s, -, rfl⟩ := List.mem_map.1 hw
    rfl
  bracketed := fun job => Event.bracketed_nil job

/-- Whatever a crew of workers who report everything has done, while the definitions change or fail,
the case is opened and closed, and the sink takes hits or fails: the events of each job come in
blocks.  Each begins with the start of the job, has nothing but further starts, hits and errors of
this job in it, and ends with the one end of the job, but for the last one, which is open exactly if
the table has a snapshot of the job.  And whatever the crew does next, the end of a job is reported
exactly once if a worker that leaves its job gives up the snapshot, and else not at all. -/
theorem events_come_in_blocks (source : DefinitionsSource) (caseFile : CaseFile)
    (settings : List JobSettings) (turns : List Turn) :
    let c := (gather source caseFile (settings.map fun s => (s, {}))).runTurns turns
    (∀ job, Event.Bracketed job (c.place.table.snapshot? job).isSome (ofJob job c.place.log)) ∧
    ∀ t, ∃ news, (c.turn t).place.log = c.place.log ++ news ∧
      ∀ job, news.count (.jobFinished job) = if c.frees job t then 1 else 0 := by
  intro c
  have h : c.Reporting := (reporting_gather source caseFile settings).runTurns turns
  exact ⟨h.bracketed, fun t => (h.accounted t).finished⟩

/-- A worker that changes to the job that it is in ends one block and begins another. -/
example :
    let c := gather { answer := fun _ => .ok .empty } {} [({}, {}), ({}, {})]
    (c.runTurns [.action (.start 0 1), .action (.start 1 1), .action (.stop 0),
        .action (.start 1 1)]).place.log =
      [.jobStarted 1 0, .jobStarted 1 0, .jobFinished 1, .jobStarted 1 0] := by
  decide

end Crew

end FileTriage
