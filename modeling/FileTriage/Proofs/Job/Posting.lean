/-
What the case holds after any run of a crew.

Of the hits that are posted one after the other, the case takes those that it does not know of yet
(`CaseFile.taken`).  So no two hits that it has are of the same file, set and rule, and as every hit
that is taken comes with its message, the messages are those of the hits in their order.  Nothing is
ever given up again, so what a file has led to once, it does not lead to a second time.
-/
import FileTriage.Proofs.Job.Crew

namespace FileTriage

/-- What tells hits apart, whichever job has found them. -/
def Hit.artifact (h : Hit) : UInt64 × String × String := (h.file, h.set, h.rule)

theorem Hit.sameArtifact_eq_true_iff {g h : Hit} :
    g.sameArtifact h = true ↔ g.artifact = h.artifact := by
  simp [sameArtifact, artifact, and_assoc]

theorem Hit.sameArtifact_eq_false_iff {g h : Hit} :
    g.sameArtifact h = false ↔ g.artifact ≠ h.artifact := by
  rw [← Bool.not_eq_true, sameArtifact_eq_true_iff]

namespace CaseFile

variable {c : CaseFile} {h : Hit} {hits : List Hit}

/-! ## Hits that a case takes -/

@[simp] theorem take_nil (c : CaseFile) : c.take [] = c := by
  simp [take]

theorem take_take (c : CaseFile) (front back : List Hit) :
    (c.take front).take back = c.take (front ++ back) := by
  simp [take]

/-- The hits that a case takes, of hits that are posted one after the other. -/
def taken (c : CaseFile) : List Hit → List Hit
  | [] => []
  | h :: hits => if c.knows h || !c.accepting then c.taken hits else h :: (c.take [h]).taken hits

theorem taken_sublist (c : CaseFile) (hits : List Hit) : (c.taken hits).Sublist hits := by
  induction hits generalizing c with
  | nil => exact .slnil
  | cons h hits ih =>
    rw [taken]
    split
    · exact (ih c).cons h
    · exact (ih _).cons_cons h

theorem taken_of_rejecting (haccepting : c.accepting = false) (hits : List Hit) :
    c.taken hits = [] := by
  induction hits with
  | nil => rfl
  | cons h hits ih =>
    rw [taken, haccepting, Bool.not_false, Bool.or_true, if_pos rfl, ih]

theorem taken_of_known (hknown : ∀ h ∈ hits, c.knows h = true) : c.taken hits = [] := by
  induction hits with
  | nil => rfl
  | cons h hits ih =>
    rw [taken, hknown h List.mem_cons_self, Bool.true_or, if_pos rfl]
    exact ih fun g hg => hknown g (List.mem_cons_of_mem _ hg)

/-- A case that remembers knows of the artifacts of its hits. -/
theorem knows_eq_true_iff (hremembering : c.remembering = true) :
    c.knows h = true ↔ ∃ g ∈ c.hits, g.artifact = h.artifact := by
  rw [knows, hremembering, Bool.true_and, List.any_eq_true]
  refine exists_congr fun g => and_congr_right fun _ => ?_
  rw [Hit.sameArtifact_eq_true_iff]
  exact eq_comm

/-- Taking hits makes no artifact unknown. -/
theorem knows_take (hknows : c.knows h = true) (more : List Hit) :
    (c.take more).knows h = true := by
  simp only [knows, take, List.any_append, Bool.and_eq_true, Bool.or_eq_true] at hknows ⊢
  exact ⟨hknows.1, .inl hknows.2⟩

/-- An accepting case knows of every hit that has been posted to it. -/
theorem knows_taken (hremembering : c.remembering = true) (haccepting : c.accepting = true)
    (hmem : h ∈ hits) : (c.take (c.taken hits)).knows h = true := by
  induction hits generalizing c with
  | nil => cases hmem
  | cons g hits ih =>
    rw [taken, haccepting, Bool.not_true, Bool.or_false]
    split
    · next hknown =>
      rcases List.mem_cons.1 hmem with rfl | hmem
      · exact knows_take hknown _
      · exact ih hremembering haccepting hmem
    · rw [← List.singleton_append, ← take_take]
      rcases List.mem_cons.1 hmem with rfl | hmem
      · have htaken : (c.take [h]).knows h = true :=
          (knows_eq_true_iff (c := c.take [h]) hremembering).2
            ⟨h, List.mem_append_right _ List.mem_cons_self, rfl⟩
        exact knows_take htaken _
      · exact ih hremembering haccepting hmem

/-! ## The invariant -/

/-- Every artifact has been taken once, and there is one message about it. -/
structure Mirrored (c : CaseFile) : Prop where
  /-- It is known which hits have been taken. -/
  remembering : c.remembering = true
  /-- No two hits are of the same file, set and rule. -/
  distinct : c.hits.Pairwise fun g h => g.sameArtifact h = false
  /-- The messages are those of the hits, in their order. -/
  messages : c.messages = c.hits.map .ofHit

/-- A hit of which the case does not know is taken. -/
theorem Mirrored.take_fresh (hc : c.Mirrored) (hfresh : c.knows h = false) :
    (c.take [h]).Mirrored := by
  refine ⟨hc.remembering, ?_, ?_⟩
  · show (c.hits ++ [h]).Pairwise _
    rw [List.pairwise_append]
    refine ⟨hc.distinct, List.pairwise_singleton _ _, ?_⟩
    intro g hg k hk
    rw [List.mem_singleton.1 hk, Hit.sameArtifact_eq_false_iff]
    intro heq
    rw [(knows_eq_true_iff hc.remembering).2 ⟨g, hg, heq⟩] at hfresh
    cases hfresh
  · simp [take, hc.messages]

theorem Mirrored.take_taken (hc : c.Mirrored) (hits : List Hit) :
    (c.take (c.taken hits)).Mirrored := by
  induction hits generalizing c with
  | nil => exact (take_nil c).symm ▸ hc
  | cons h hits ih =>
    rw [taken]
    split
    · exact ih hc
    · next hpost =>
      rw [← List.singleton_append, ← take_take]
      rw [Bool.or_eq_true, not_or, Bool.not_eq_true] at hpost
      exact ih (hc.take_fresh hpost.1)

/-- The case has a hit of a file for a set and a rule, whichever job has found it. -/
def Has (c : CaseFile) (f : FileRecord) (m : String × String) : Prop :=
  ∃ h ∈ c.hits, h.artifact = (f.id, m.1, m.2)

theorem Has.mono {f : FileRecord} {m : String × String} (h : c.Has f m) {later : CaseFile}
    (hlater : c.hits <+: later.hits) : later.Has f m := by
  obtain ⟨g, hg, hartifact⟩ := h
  exact ⟨g, hlater.subset hg, hartifact⟩

end CaseFile

/-! ## What a worker posts -/

theorem Workplace.caseFile_post_eq (p : Workplace) (logger : EventLogger) (h : Hit) :
    (p.post logger h).caseFile =
      if p.caseFile.knows h || !p.caseFile.accepting then p.caseFile else p.caseFile.take [h] := by
  rw [post]
  split
  · rfl
  · rfl

theorem Workplace.caseFile_postAll_eq (p : Workplace) (logger : EventLogger) (hits : List Hit) :
    (p.postAll logger hits).caseFile = p.caseFile.take (p.caseFile.taken hits) := by
  induction hits generalizing p with
  | nil => exact (CaseFile.take_nil _).symm
  | cons h hits ih =>
    show ((p.post logger h).postAll logger hits).caseFile = _
    rw [ih, caseFile_post_eq, CaseFile.taken]
    split
    · rfl
    · rw [CaseFile.take_take, List.singleton_append]

namespace Worker

variable {w : Worker} {s : JobSnapshot} {p : Workplace} {f : FileRecord}

/-- A worker that is in no job, looks at slack space, or finds the case closed or full, adds
nothing to the case. -/
theorem caseFile_process_of_passive (now : Instant)
    (h : w.job = none ∨ p.caseFile.isOpen = false ∨ p.caseFile.accepting = false ∨
      f.fileType = .slack) : (w.process p f now).2.caseFile = p.caseFile := by
  cases hjob : w.job with
  | none => rw [process_of_idle hjob]
  | some s =>
    cases hopen : p.caseFile.isOpen with
    | false =>
      rw [process_of_closed hjob hopen]
      rfl
    | true =>
      rw [process_of_open hjob hopen, Workplace.caseFile_postAll_eq]
      rcases h with h | h | h | h
      · rw [hjob] at h
        cases h
      · rw [hopen] at h
        cases h
      · rw [CaseFile.taken_of_rejecting h, CaseFile.take_nil]
      · rw [JobSnapshot.hits, if_pos h, CaseFile.taken, CaseFile.take_nil]

/-- What a worker adds to the case are the hits of the file that the case takes. -/
theorem exists_caseFile_process (w : Worker) (p : Workplace) (f : FileRecord) (now : Instant) :
    ∃ hits, (w.process p f now).2.caseFile = p.caseFile.take (p.caseFile.taken hits) := by
  cases hjob : w.job with
  | none =>
    refine ⟨[], ?_⟩
    rw [caseFile_process_of_passive now (.inl hjob), CaseFile.taken, CaseFile.take_nil]
  | some s =>
    cases hopen : p.caseFile.isOpen with
    | false =>
      refine ⟨[], ?_⟩
      rw [caseFile_process_of_passive now (.inr (.inl hopen)), CaseFile.taken, CaseFile.take_nil]
    | true =>
      exact ⟨s.hits f now, by rw [process_of_open hjob hopen, Workplace.caseFile_postAll_eq]⟩

/-- A file of which the case has everything adds nothing, whichever jobs have found it. -/
theorem caseFile_process_of_has (hjob : w.job = some s) (hremembering : p.caseFile.remembering = true)
    (now : Instant) (hhas : ∀ m ∈ s.memberships f now, p.caseFile.Has f m) :
    (w.process p f now).2.caseFile = p.caseFile := by
  cases hopen : p.caseFile.isOpen with
  | false => exact caseFile_process_of_passive now (.inr (.inl hopen))
  | true =>
    rw [process_of_open hjob hopen, Workplace.caseFile_postAll_eq, CaseFile.taken_of_known,
      CaseFile.take_nil]
    intro h hh
    obtain ⟨-, m, hm, rfl⟩ := JobSnapshot.mem_hits.1 hh
    exact (CaseFile.knows_eq_true_iff hremembering).2 (hhas m hm)

/-- A case that is open and accepting has every membership of a file after a worker has looked at
it, and what it did not have before, it has from this worker's job. -/
theorem has_process (hjob : w.job = some s) (hremembering : p.caseFile.remembering = true)
    (hopen : p.caseFile.isOpen = true) (haccepting : p.caseFile.accepting = true)
    (hslack : f.fileType ≠ .slack) {now : Instant} {m : String × String}
    (hm : m ∈ s.memberships f now) :
    (w.process p f now).2.caseFile.Has f m ∧
      (¬ p.caseFile.Has f m →
        .ofFile s.job f m.1 m.2 ∈ (w.process p f now).2.caseFile.hits) := by
  rw [process_of_open hjob hopen, Workplace.caseFile_postAll_eq]
  have hposted : .ofFile s.job f m.1 m.2 ∈ s.hits f now :=
    JobSnapshot.mem_hits.2 ⟨hslack, m, hm, rfl⟩
  obtain ⟨h, hh, hartifact⟩ := (CaseFile.knows_eq_true_iff (by exact hremembering)).1
    (CaseFile.knows_taken hremembering haccepting hposted)
  refine ⟨⟨h, hh, hartifact⟩, ?_⟩
  intro hnew
  rcases List.mem_append.1 hh with hold | htaken
  · exact absurd ⟨h, hold, hartifact⟩ hnew
  · -- hits of one file in one job differ only in the set and the rule
    obtain ⟨-, m', -, rfl⟩ :=
      JobSnapshot.mem_hits.1 ((CaseFile.taken_sublist _ _).subset htaken)
    have hset : m'.1 = m.1 := congrArg (·.2.1) hartifact
    have hrule : m'.2 = m.2 := congrArg (·.2.2) hartifact
    rw [hset, hrule] at hh
    exact hh

end Worker

/-! ## Runs of a crew -/

namespace Crew

variable {c : Crew}

/-- What a worker's look at a file makes of the case; a worker that does not exist does nothing. -/
theorem caseFile_act_process (c : Crew) (i : Nat) (f : FileRecord) (now : Instant) :
    (c.act (.process i f now)).place.caseFile =
      match c.workers[i]? with
      | none => c.place.caseFile
      | some w => (w.process c.place f now).2.caseFile := by
  rw [act]
  cases c.workers[i]? with
  | none => rfl
  | some w => rfl

/-- Joining, leaving, and what happens around the crew, may only open or close the case or change
whether it accepts. -/
theorem exists_caseFile_act_of_ne_process (c : Crew) {a : Action}
    (h : ∀ i f now, a ≠ .process i f now) :
    ∃ isOpen accepting, (c.act a).place.caseFile =
      { c.place.caseFile with isOpen, accepting } := by
  cases a with
  | start i job =>
    rw [act]
    split
    · exact ⟨_, _, rfl⟩
    · next w _ => exact ⟨_, _, w.caseFile_start c.place job⟩
  | process i f now => exact absurd rfl (h i f now)
  | stop i =>
    rw [act]
    split
    · exact ⟨_, _, rfl⟩
    · next w _ => exact ⟨_, _, w.caseFile_stop c.place⟩
  | serve answer => exact ⟨_, _, rfl⟩
  | turnCase isOpen accepting => exact ⟨isOpen, accepting, rfl⟩

/-- An action adds to the case what it takes of some hits, and apart from that may only open or
close it or change whether it accepts. -/
theorem exists_caseFile_act (c : Crew) (a : Action) :
    ∃ hits isOpen accepting, (c.act a).place.caseFile =
      { c.place.caseFile.take (c.place.caseFile.taken hits) with isOpen, accepting } := by
  by_cases hlook : ∃ i f now, a = .process i f now
  · obtain ⟨i, f, now, rfl⟩ := hlook
    rw [caseFile_act_process]
    split
    · exact ⟨[], _, _, by rw [CaseFile.taken, CaseFile.take_nil]⟩
    · next w _ =>
      obtain ⟨hits, hprocess⟩ := w.exists_caseFile_process c.place f now
      exact ⟨hits, _, _, hprocess⟩
  · obtain ⟨isOpen, accepting, hact⟩ :=
      c.exists_caseFile_act_of_ne_process fun i f now heq => hlook ⟨i, f, now, heq⟩
    exact ⟨[], isOpen, accepting, by rw [hact, CaseFile.taken, CaseFile.take_nil]⟩

theorem mirrored_act (h : c.place.caseFile.Mirrored) (a : Action) :
    (c.act a).place.caseFile.Mirrored := by
  obtain ⟨hits, isOpen, accepting, heq⟩ := c.exists_caseFile_act a
  have htaken := h.take_taken hits
  rw [heq]
  exact ⟨htaken.remembering, htaken.distinct, htaken.messages⟩

theorem mirrored_run (h : c.place.caseFile.Mirrored) (actions : List Action) :
    (c.run actions).place.caseFile.Mirrored := by
  induction actions generalizing c with
  | nil => exact h
  | cons a actions ih => exact ih (mirrored_act h a)

/-- No hit is given up. -/
theorem hits_prefix_run (c : Crew) (actions : List Action) :
    c.place.caseFile.hits <+: (c.run actions).place.caseFile.hits := by
  induction actions generalizing c with
  | nil => exact List.prefix_refl _
  | cons a actions ih =>
    obtain ⟨hits, isOpen, accepting, heq⟩ := c.exists_caseFile_act a
    have hact : c.place.caseFile.hits <+: (c.act a).place.caseFile.hits := by
      rw [heq]
      exact List.prefix_append _ _
    exact hact.trans (ih (c.act a))

/-- Joining, leaving, and what happens around the crew, leave hits and messages as they are. -/
theorem hits_act_of_ne_process (c : Crew) {a : Action} (h : ∀ i f now, a ≠ .process i f now) :
    (c.act a).place.caseFile.hits = c.place.caseFile.hits ∧
      (c.act a).place.caseFile.messages = c.place.caseFile.messages := by
  obtain ⟨isOpen, accepting, hact⟩ := c.exists_caseFile_act_of_ne_process h
  rw [hact]
  exact ⟨rfl, rfl⟩

/-- Whatever a crew has done at a case that had no hits: no two hits are of the same file, set and
rule, the messages are those of the hits in their order, and no hit is ever given up.  Only a look
at a file adds to them, and not that of a worker without a job, at a case that is closed or does not
accept, or at slack space.  A file all of whose memberships the case has adds nothing, whichever
jobs have found them.  Where the case is open and accepts, it has all memberships of the file after
the look; one that it did not have before, for instance because it did not accept then, has been
posted from the job of this worker; and from then on no look at that file adds anything, whatever
happens in between, in any job that has no other memberships for it. -/
theorem hits_are_mirrored (source : DefinitionsSource) (isOpen accepting : Bool)
    (members : List (JobSettings × EventLogger)) (actions : List Action) :
    let c := (gather source { isOpen, accepting } members).run actions
    let case := c.place.caseFile
    case.hits.Pairwise (fun g h => g.sameArtifact h = false) ∧
    case.messages = case.hits.map .ofHit ∧
    (∀ more, case.hits <+: (c.run more).place.caseFile.hits) ∧
    (∀ a, (∀ i f now, a ≠ .process i f now) →
      (c.act a).place.caseFile.hits = case.hits ∧
        (c.act a).place.caseFile.messages = case.messages) ∧
    ∀ i f now, let next := c.act (.process i f now)
      ((∀ w, c.workers[i]? = some w → w.job = none) ∨ case.isOpen = false ∨
        case.accepting = false ∨ f.fileType = .slack → next.place.caseFile = case) ∧
      ∀ w s, c.workers[i]? = some w → w.job = some s →
        ((∀ m ∈ s.memberships f now, case.Has f m) → next.place.caseFile = case) ∧
        (case.isOpen = true → case.accepting = true → f.fileType ≠ .slack →
          (∀ m ∈ s.memberships f now, next.place.caseFile.Has f m ∧
            (¬ case.Has f m → .ofFile s.job f m.1 m.2 ∈ next.place.caseFile.hits)) ∧
          ∀ more k v t, (next.run more).workers[k]? = some v → v.job = some t →
            (∀ m ∈ t.memberships f now, m ∈ s.memberships f now) →
            ((next.run more).act (.process k f now)).place.caseFile =
              (next.run more).place.caseFile) := by
  intro c case
  have hcase : case.Mirrored := mirrored_run ⟨rfl, .nil, rfl⟩ actions
  refine ⟨hcase.distinct, hcase.messages, c.hits_prefix_run, fun a => c.hits_act_of_ne_process, ?_⟩
  intro i f now next
  refine ⟨?_, ?_⟩
  · intro hpassive
    show next.place.caseFile = case
    rw [c.caseFile_act_process]
    split
    · rfl
    · next w hw =>
      exact Worker.caseFile_process_of_passive now (hpassive.imp_left fun h => h w hw)
  · intro w s hw hjob
    have hnext : next.place.caseFile = (w.process c.place f now).2.caseFile := by
      rw [c.caseFile_act_process, hw]
    refine ⟨?_, ?_⟩
    · intro hhas
      rw [hnext]
      exact Worker.caseFile_process_of_has hjob hcase.remembering now hhas
    · intro hopen haccepting hslack
      have hhas : ∀ m ∈ s.memberships f now, next.place.caseFile.Has f m ∧
          (¬ case.Has f m → .ofFile s.job f m.1 m.2 ∈ next.place.caseFile.hits) := by
        intro m hm
        rw [hnext]
        exact Worker.has_process hjob hcase.remembering hopen haccepting hslack hm
      refine ⟨hhas, ?_⟩
      intro more k v t hv ht hsub
      have hlater : (next.run more).place.caseFile.Mirrored :=
        mirrored_run (mirrored_act hcase _) more
      rw [caseFile_act_process, hv]
      refine Worker.caseFile_process_of_has ht hlater.remembering now fun m hm => ?_
      exact (hhas m (hsub m hm)).1.mono (next.hits_prefix_run more)

end Crew

end FileTriage
