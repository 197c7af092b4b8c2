/-
The order in which a scan shows its hits.

The hits that a job has posted are put in order by path and then by set, so any two orders in which
they may have been posted show the same paths and sets, place by place.  Hits of one path and set
stay in the order in which they came (`HitRecord.filter_inOrder`).  Two files may have one path,
since a backslash in a name is read as a separator, and satisfy different rules of one set.  Where
that happens, and only there, what is shown depends on the schedule.
-/
import FileTriage.CommandLine.Run
import FileTriage.Proofs.Job.Schedule
import Mathlib.Data.List.Pairwise

namespace FileTriage

namespace HitRecord

variable {a b : HitRecord} {hits hits' : List HitRecord} {k l m : String × String}

/-! ## Paths and sets -/

/-- What hits are told apart by when they are put in order: the path and the set. -/
def key (h : HitRecord) : String × String := (h.path, h.set)

/-- Whether a path and a set come before others, or are the same. -/
def NotAfter (k l : String × String) : Prop := k.1 < l.1 ∨ k.1 = l.1 ∧ k.2 ≤ l.2

theorem NotAfter.trans (hkl : NotAfter k l) (hlm : NotAfter l m) : NotAfter k m := by
  rcases hkl with hkl | ⟨hkl, hset⟩
  · rcases hlm with hlm | ⟨hlm, -⟩
    · exact .inl (String.lt_trans hkl hlm)
    · exact .inl (hlm ▸ hkl)
  · rcases hlm with hlm | ⟨hlm, hset'⟩
    · exact .inl (hkl ▸ hlm)
    · exact .inr ⟨hkl.trans hlm, String.le_trans hset hset'⟩

theorem NotAfter.antisymm (hkl : NotAfter k l) (hlk : NotAfter l k) : k = l := by
  rcases hkl with hkl | ⟨hpath, hset⟩
  · rcases hlk with hlk | ⟨hlk, -⟩
    · exact absurd hlk (String.lt_asymm hkl)
    · exact absurd (hlk ▸ hkl) (String.lt_irrefl _)
  · rcases hlk with hlk | ⟨-, hset'⟩
    · exact absurd (hpath ▸ hlk) (String.lt_irrefl _)
    · exact Prod.ext hpath (String.le_antisymm hset hset')

theorem notAfter_total (k l : String × String) : NotAfter k l ∨ NotAfter l k := by
  by_cases hpath : k.1 = l.1
  · rcases String.le_total k.2 l.2 with hset | hset
    · exact .inl (.inr ⟨hpath, hset⟩)
    · exact .inr (.inr ⟨hpath.symm, hset⟩)
  · by_cases hlt : k.1 < l.1
    · exact .inl (.inl hlt)
    · exact .inr (.inl (NameMap.lt_of_not_lt_of_ne hlt hpath))

theorem notAfter_refl (k : String × String) : NotAfter k k := or_self_iff.1 (notAfter_total k k)

theorem le_iff : le a b = true ↔ NotAfter a.key b.key := by
  simp [le, NotAfter, key]

/-! ## Putting hits in order -/

theorem inOrder_perm (hits : List HitRecord) : (inOrder hits).Perm hits :=
  List.mergeSort_perm hits le

theorem inOrder_perm_inOrder (h : hits.Perm hits') : (inOrder hits).Perm (inOrder hits') :=
  (inOrder_perm hits).trans (h.trans (inOrder_perm hits').symm)

theorem le_trans (a b c : HitRecord) (hab : le a b = true) (hbc : le b c = true) :
    le a c = true :=
  le_iff.2 ((le_iff.1 hab).trans (le_iff.1 hbc))

theorem le_total (a b : HitRecord) : (le a b || le b a) = true := by
  rw [Bool.or_eq_true, le_iff, le_iff]
  exact notAfter_total a.key b.key

theorem pairwise_inOrder (hits : List HitRecord) :
    (inOrder hits).Pairwise fun a b => NotAfter a.key b.key :=
  (@List.pairwise_mergeSort _ le le_trans le_total hits).imp le_iff.1

/-- Hits of one path and set are left as they come. -/
theorem inOrder_of_key (k : String × String) (h : ∀ a ∈ hits, a.key = k) :
    inOrder hits = hits := by
  refine List.mergeSort_of_pairwise (List.pairwise_of_forall_mem_list ?_)
  intro a ha b hb
  rw [le_iff, h a ha, h b hb]
  exact notAfter_refl k

/-- Hits of one path and set stay in the order in which they came. -/
theorem filter_inOrder (hits : List HitRecord) (k : String × String) :
    (inOrder hits).filter (fun h => h.key = k) = hits.filter fun h => h.key = k := by
  have hsame : inOrder (hits.filter fun h => h.key = k) = hits.filter fun h => h.key = k :=
    inOrder_of_key k fun a ha => of_decide_eq_true (List.mem_filter.1 ha).2
  have hsorted : (hits.filter fun h => h.key = k).Pairwise fun a b => le a b = true := by
    rw [← hsame]
    exact (pairwise_inOrder _).imp le_iff.2
  have hsublist : (hits.filter fun h => h.key = k).Sublist (inOrder hits) :=
    List.sublist_mergeSort le_trans le_total hsorted List.filter_sublist
  have hfilter := hsublist.filter fun h => decide (h.key = k)
  simp only [List.filter_filter, Bool.and_self] at hfilter
  exact (hfilter.eq_of_length ((inOrder_perm hits).filter _).length_eq.symm).symm

/-- The first hit of a path and set stays the first one. -/
theorem find?_inOrder (hits : List HitRecord) (k : String × String) :
    (inOrder hits).find? (fun h => h.key = k) = hits.find? fun h => h.key = k := by
  rw [← List.head?_filter, filter_inOrder, List.head?_filter]

/-- In whatever order hits come, the same paths and sets are shown, place by place. -/
theorem map_key_inOrder (h : hits.Perm hits') :
    (inOrder hits).map key = (inOrder hits').map key :=
  ((inOrder_perm_inOrder h).map key).eq_of_pairwise (fun _ _ _ _ => NotAfter.antisymm)
    (List.pairwise_map.2 (pairwise_inOrder hits)) (List.pairwise_map.2 (pairwise_inOrder hits'))

/-- Hits that their paths and sets tell apart are shown in one order. -/
theorem inOrder_congr (h : hits.Perm hits')
    (hapart : ∀ a ∈ hits, ∀ b ∈ hits, a.key = b.key → a = b) : inOrder hits = inOrder hits' := by
  refine (inOrder_perm_inOrder h).eq_of_pairwise ?_ (pairwise_inOrder hits)
    (pairwise_inOrder hits')
  intro a b ha hb hab hba
  have hb' : b ∈ hits := h.mem_iff.2 ((inOrder_perm hits').mem_iff.1 hb)
  exact hapart a ((inOrder_perm hits).mem_iff.1 ha) b hb' (hab.antisymm hba)

end HitRecord

/-! ## Posting hits -/

namespace JobSpec

/-- The hits of a job in an order in which its workers may post them. -/
def PostingOrder (spec : JobSpec) (sets : Definitions) (files : List FileRecord) (now : Instant)
    (hits : List Hit) : Prop :=
  hits.Perm (spec.posts (spec.snapshot sets) files now)

/-- Of the hits that a job is to post, those of one path and set are of one rule. -/
def RulesAgree (spec : JobSpec) (sets : Definitions) (files : List FileRecord)
    (now : Instant) : Prop :=
  ∀ g h, spec.Expected sets files now g → spec.Expected sets files now h →
    g.path = h.path → g.set = h.set → g.rule = h.rule

/-- The hits that a scan shows of those that have been posted. -/
def shown (hits : List Hit) : List HitRecord := HitRecord.inOrder (hits.map HitRecord.ofHit)

variable {spec : JobSpec} {p : Workplace} {sets : Definitions} {s : JobSnapshot}
  {files : List FileRecord} {schedule : List Step} {now : Instant} {hits hits' : List Hit}

theorem shown_of_postingOrders (hagree : spec.RulesAgree sets files now)
    (h : spec.PostingOrder sets files now hits) (h' : spec.PostingOrder sets files now hits') :
    shown hits = shown hits' := by
  refine HitRecord.inOrder_congr ((h.trans h'.symm).map _) ?_
  intro a ha b hb hkey
  obtain ⟨x, hx, rfl⟩ := List.mem_map.1 ha
  obtain ⟨y, hy, rfl⟩ := List.mem_map.1 hb
  have hpath : x.path = y.path := congrArg Prod.fst hkey
  have hset : x.set = y.set := congrArg Prod.snd hkey
  have hrule : x.rule = y.rule :=
    hagree x y (mem_posts_iff.1 (h.mem_iff.1 hx)) (mem_posts_iff.1 (h.mem_iff.1 hy)) hpath hset
  rw [HitRecord.ofHit, HitRecord.ofHit, hpath, hset, hrule]

/-! ## Two schedules -/

/-- The schedule in which the first worker looks at all files. -/
def byFirstWorker (files : List FileRecord) : List Step :=
  files.map fun file => { worker := 0, file }

theorem uninterrupted_byFirstWorker (files : List FileRecord) :
    Uninterrupted (byFirstWorker files) := by
  intro step hstep
  obtain ⟨f, -, rfl⟩ := List.mem_map.1 hstep
  rfl

theorem map_file_byFirstWorker (files : List FileRecord) :
    (byFirstWorker files).map (·.file) = files := by
  rw [byFirstWorker, List.map_map]
  exact List.map_id files

theorem schedules_byFirstWorker {order : List FileRecord}
    (hworkers : areWorkersInLimits spec.workers = true) (h : order.Perm files) :
    Schedules files spec.workers (byFirstWorker order) := by
  refine ⟨by rwa [map_file_byFirstWorker], ?_⟩
  intro step hstep
  obtain ⟨f, -, rfl⟩ := List.mem_map.1 hstep
  exact of_decide_eq_true (Bool.and_eq_true_iff.1 hworkers).1

/-- The hits that a run on a schedule posts. -/
theorem hits_runOn (hworkers : areWorkersInLimits spec.workers = true)
    (hbegin : spec.CanBegin p sets) (hids : (files.map (·.id)).Nodup)
    (hschedule : Schedules files spec.workers schedule) (logger : EventLogger) (interrupted : Bool)
    (now : Instant) :
    (spec.runOn logger schedule interrupted now p).2.caseFile.hits =
      spec.posts (spec.snapshot sets) (handled schedule) now := by
  obtain ⟨p', hrun, hcase⟩ := runOn_eq hworkers hbegin hids hschedule logger interrupted now
  rw [hrun, hcase, CaseFile.take, hbegin.empty, List.nil_append]

/-- A file has one hit at most for each set. -/
theorem eq_of_mem_hits {f : FileRecord} {g h : Hit}
    (hs : s.sets.Pairwise fun a b => a.name ≠ b.name) (hg : g ∈ s.hits f now)
    (hh : h ∈ s.hits f now) (hset : g.set = h.set) : g = h := by
  have hsymm : Std.Symm fun g h : Hit => (g.file, g.set) ≠ (h.file, h.set) := ⟨fun _ _ => Ne.symm⟩
  by_contra hne
  refine (pairwise_hits hs f).forall hg hh hne ?_
  rw [hset, file_of_mem_hits hg, file_of_mem_hits hh]

/-- Of a path and a set, the hit of the file that is looked at first is posted first. -/
theorem find?_posts_cons {f : FileRecord} {g : Hit} (hadmits : spec.filter.admits f now = true)
    (hs : s.sets.Pairwise fun a b => a.name ≠ b.name) (hg : g ∈ s.hits f now)
    (rest : List FileRecord) :
    (spec.posts s (f :: rest) now).find? (fun h => (HitRecord.ofHit h).key = (g.path, g.set)) =
      some g := by
  have hsome : ((s.hits f now).find?
      fun h => (HitRecord.ofHit h).key = (g.path, g.set)).isSome = true := by
    rw [List.find?_isSome]
    exact ⟨g, hg, decide_eq_true rfl⟩
  obtain ⟨h, hfind⟩ := Option.isSome_iff_exists.1 hsome
  have hkey : (HitRecord.ofHit h).key = (g.path, g.set) := by simpa using List.find?_some hfind
  have heq : h = g :=
    eq_of_mem_hits hs (List.mem_of_find?_eq_some hfind) hg (congrArg Prod.snd hkey)
  rw [posts_cons, if_pos hadmits, List.find?_append, hfind, heq, Option.some_or]

/-- Of a path and a set, the hit that has been posted first is shown first. -/
theorem find?_shown (hits : List Hit) (k : String × String) :
    (shown hits).find? (fun h => h.key = k) =
      (hits.find? fun h => (HitRecord.ofHit h).key = k).map HitRecord.ofHit := by
  rw [shown, HitRecord.find?_inOrder, List.find?_map]
  rfl

/-- If what is shown is the same for all schedules, hits of one path and set are of one rule: of
either hit there is a schedule that posts it first. -/
theorem rulesAgree_of_schedules (hworkers : areWorkersInLimits spec.workers = true)
    (hbegin : spec.CanBegin p sets) (hids : (files.map (·.id)).Nodup) (logger : EventLogger)
    (interrupted : Bool)
    (h : ∀ schedule schedule', Schedules files spec.workers schedule → Uninterrupted schedule →
      Schedules files spec.workers schedule' → Uninterrupted schedule' →
      shown (spec.runOn logger schedule interrupted now p).2.caseFile.hits =
        shown (spec.runOn logger schedule' interrupted now p).2.caseFile.hits) :
    spec.RulesAgree sets files now := by
  -- the schedule that has the file of a hit first shows this hit first of its path and set
  have hfirst : ∀ g, spec.Expected sets files now g →
      ∃ schedule, Schedules files spec.workers schedule ∧ Uninterrupted schedule ∧
        (shown (spec.runOn logger schedule interrupted now p).2.caseFile.hits).find?
          (fun h => h.key = (g.path, g.set)) = some (HitRecord.ofHit g) := by
    intro g hg
    obtain ⟨f, hf, hg⟩ := List.mem_flatMap.1 (mem_posts_iff.2 hg)
    obtain ⟨hf, hadmits⟩ := List.mem_filter.1 hf
    have hschedule : Schedules files spec.workers (byFirstWorker (f :: files.erase f)) :=
      schedules_byFirstWorker hworkers (List.perm_cons_erase hf).symm
    refine ⟨_, hschedule, uninterrupted_byFirstWorker _, ?_⟩
    rw [hits_runOn hworkers hbegin hids hschedule, find?_shown,
      handled_of_uninterrupted (uninterrupted_byFirstWorker _), map_file_byFirstWorker,
      find?_posts_cons hadmits (names_snapshot spec hbegin.named) hg]
    rfl
  intro g g' hg hg' hpath hset
  obtain ⟨schedule, hschedule, hnever, hshown⟩ := hfirst g hg
  obtain ⟨schedule', hschedule', hnever', hshown'⟩ := hfirst g' hg'
  rw [h schedule schedule' hschedule hnever hschedule' hnever', hpath, hset, hshown'] at hshown
  exact congrArg HitRecord.rule (Option.some.inj hshown).symm

/-- The hits that a scan shows depend on the order in which the workers post them in nothing but
the order of the rules among hits of one path and set.  Every schedule that is never interrupted
posts the hits of the job in some order.  Any two orders show the same hits, and the same path and
set at each place.  They show one and the same list, for all orders as for all schedules, exactly
if hits of one path and set are always of one rule. -/
theorem shown_hits_agree_iff (hworkers : areWorkersInLimits spec.workers = true)
    (hbegin : spec.CanBegin p sets) (hids : (files.map (·.id)).Nodup) (logger : EventLogger)
    (interrupted : Bool) (now : Instant) (plan : Command.ScanPlan) (found : Discovery)
    (stats : JobStats) :
    let output (hits : List Hit) := (Command.scanOutput plan found stats hits).hits
    let posted (schedule : List Step) :=
      (spec.runOn logger schedule interrupted now p).2.caseFile.hits
    (∀ schedule, Schedules files spec.workers schedule → Uninterrupted schedule →
      spec.PostingOrder sets files now (posted schedule)) ∧
    (∀ hits hits', spec.PostingOrder sets files now hits → spec.PostingOrder sets files now hits' →
      (output hits).Perm (output hits') ∧
        (output hits).map HitRecord.key = (output hits').map HitRecord.key) ∧
    ((∀ hits hits', spec.PostingOrder sets files now hits →
      spec.PostingOrder sets files now hits' → output hits = output hits') ↔
        spec.RulesAgree sets files now) ∧
    ((∀ schedule schedule', Schedules files spec.workers schedule → Uninterrupted schedule →
      Schedules files spec.workers schedule' → Uninterrupted schedule' →
      output (posted schedule) = output (posted schedule')) ↔
        spec.RulesAgree sets files now) := by
  intro output posted
  have hposted : ∀ schedule, Schedules files spec.workers schedule → Uninterrupted schedule →
      spec.PostingOrder sets files now (posted schedule) := by
    intro schedule hschedule hnever
    rw [show posted schedule = _ from hits_runOn hworkers hbegin hids hschedule logger _ now]
    exact posts_perm (hschedule.handled_perm hnever)
  refine ⟨hposted, ?_, ⟨?_, ?_⟩, ⟨?_, ?_⟩⟩
  · intro hits hits' h h'
    have hrecords : (hits.map HitRecord.ofHit).Perm (hits'.map HitRecord.ofHit) :=
      (h.trans h'.symm).map _
    exact ⟨HitRecord.inOrder_perm_inOrder hrecords, HitRecord.map_key_inOrder hrecords⟩
  · intro h
    refine rulesAgree_of_schedules hworkers hbegin hids logger interrupted ?_
    intro schedule schedule' hschedule hnever hschedule' hnever'
    exact h _ _ (hposted schedule hschedule hnever) (hposted schedule' hschedule' hnever')
  · intro hagree hits hits' h h'
    exact shown_of_postingOrders hagree h h'
  · exact rulesAgree_of_schedules hworkers hbegin hids logger interrupted
  · intro hagree schedule schedule' hschedule hnever hschedule' hnever'
    exact shown_of_postingOrders hagree (hposted schedule hschedule hnever)
      (hposted schedule' hschedule' hnever')

/-! ## Two files of one path -/

/-- Any size can be asked for exactly. -/
theorem sensible_equal (value : UInt64) :
    value ≠ 0 ∨ SizeComparator.equal = SizeComparator.equal :=
  .inr rfl

/-- A rule for files of so many bytes. -/
def sizeRule (id name : String) (value : UInt64) (hid : Text.allBlank id = false)
    (hname : Text.allBlank name = false) : Rule :=
  ⟨id, name, [.fileSize ⟨.equal, .bytes, value, sensible_equal value⟩], false, hid, hname, by simp,
    List.pairwise_singleton _ _⟩

theorem allBlank_firstId : Text.allBlank "01" = false := by decide

/-- A set that tells files of one byte from files of two. -/
def sized : FilesSet where
  name := "Sized"
  rules := ⟨[("01", sizeRule "01" "One byte" 1 allBlank_firstId (by decide)),
    ("02", sizeRule "02" "Two bytes" 2 (by decide) (by decide))], by decide⟩
  name_not_blank := by decide
  keyed := by decide

/-- A place whose definitions are of this set. -/
def sizedPlace : Workplace where
  table := { source := { answer := fun _ => .ok (.ofList [("Sized", sized)]) } }

/-- A file of one byte. -/
def shortFile : FileRecord := { FileRecord.ofPath 1 "/data/a/b" with size := 1 }

/-- A file of two bytes; the backslash belongs to its name, and is read as a separator. -/
def longFile : FileRecord := { FileRecord.ofPath 2 "/data/a\\b" with size := 2 }

/-- A file of two bytes elsewhere. -/
def otherFile : FileRecord := { FileRecord.ofPath 3 "/data/c" with size := 2 }

/-- A scan that applies this set to every file. -/
def sizedPlan : Command.ScanPlan where
  spec := pairJob
  filterName := Definitions.everythingName
  applied := ["Sized"]

theorem sized_canBegin : sizedPlan.spec.CanBegin sizedPlace (.ofList [("Sized", sized)]) :=
  ⟨rfl, rfl, by decide, rfl, rfl, rfl⟩

/-- Files of different paths are shown in one order, whatever the schedule. -/
theorem sized_paths_agree :
    let files := [shortFile, otherFile]
    let output (schedule : List Step) := (Command.scanOutput sizedPlan { files } {}
      (sizedPlan.spec.runOn {} schedule false .epoch sizedPlace).2.caseFile.hits).hits
    ∀ schedule schedule', Schedules files 2 schedule → Uninterrupted schedule →
      Schedules files 2 schedule' → Uninterrupted schedule' →
      output schedule = output schedule' := by
  intro files output
  have hposts : sizedPlan.spec.posts (sizedPlan.spec.snapshot (.ofList [("Sized", sized)])) files
      .epoch = [⟨1, 1, "/data/a/b", "Sized", "One byte"⟩,
        ⟨1, 3, "/data/c", "Sized", "Two bytes"⟩] := by decide
  have hagree : sizedPlan.spec.RulesAgree (.ofList [("Sized", sized)]) files .epoch := by
    intro g h hg hh hpath _
    rw [← mem_posts_iff, hposts] at hg hh
    revert hpath
    simp only [List.mem_cons, List.not_mem_nil, or_false] at hg hh
    rcases hg with rfl | rfl <;> rcases hh with rfl | rfl <;> decide
  exact (shown_hits_agree_iff (by decide) sized_canBegin (by decide) {} false .epoch sizedPlan
    { files } {}).2.2.2.2 hagree

/-- Two files of one path that satisfy different rules: two schedules show different lists. -/
theorem sized_depend_on_schedule :
    let files := [shortFile, longFile]
    let output (schedule : List Step) := (Command.scanOutput sizedPlan { files } {}
      (sizedPlan.spec.runOn {} schedule false .epoch sizedPlace).2.caseFile.hits).hits
    sizedPlan.spec.CanBegin sizedPlace (.ofList [("Sized", sized)]) ∧ (files.map (·.id)).Nodup ∧
    ∃ schedule schedule', Schedules files 2 schedule ∧ Uninterrupted schedule ∧
      Schedules files 2 schedule' ∧ Uninterrupted schedule' ∧
      output schedule =
        [⟨"/data/a/b", "Sized", "One byte"⟩, ⟨"/data/a/b", "Sized", "Two bytes"⟩] ∧
      output schedule' =
        [⟨"/data/a/b", "Sized", "Two bytes"⟩, ⟨"/data/a/b", "Sized", "One byte"⟩] := by
  intro files output
  have hfirst : (sizedPlan.spec.runOn {} (byFirstWorker files) false .epoch
      sizedPlace).2.caseFile.hits = [⟨1, 1, "/data/a/b", "Sized", "One byte"⟩,
        ⟨1, 2, "/data/a/b", "Sized", "Two bytes"⟩] := by decide
  have hsecond : (sizedPlan.spec.runOn {} (byFirstWorker files.reverse) false .epoch
      sizedPlace).2.caseFile.hits = [⟨1, 2, "/data/a/b", "Sized", "Two bytes"⟩,
        ⟨1, 1, "/data/a/b", "Sized", "One byte"⟩] := by decide
  have hworkers : areWorkersInLimits sizedPlan.spec.workers = true := by decide
  refine ⟨sized_canBegin, by decide, byFirstWorker files, byFirstWorker files.reverse,
    schedules_byFirstWorker hworkers (.refl _), uninterrupted_byFirstWorker _,
    schedules_byFirstWorker hworkers (List.reverse_perm _), uninterrupted_byFirstWorker _,
    ?_, ?_⟩
  · simp only [output, Command.scanOutput]
    rw [hfirst]
    exact HitRecord.inOrder_of_key ("/data/a/b", "Sized") (by decide)
  · simp only [output, Command.scanOutput]
    rw [hsecond]
    exact HitRecord.inOrder_of_key ("/data/a/b", "Sized") (by decide)

end JobSpec

end FileTriage
