/-
What a scan discovers.

Without an interruption, a scan lists what its moves list, numbered from one on, and has skipped what
they skip (`run_of_no_patience`).  With one, it stops somewhere among these moves: what it has listed
by then is what the whole scan has listed by then (`run_of_patience`).  The moves for a root are
those for the root alone, or for what is strictly below it in the order of names.  Nothing here
depends on which classifier assigns the MIME types.
-/
import FileTriage.Mime.Types
import FileTriage.Proofs.Scan.Course
import Mathlib.Algebra.Ring.Nat
import Mathlib.Data.List.Forall2

namespace FileTriage

namespace Scan

variable {s : Scan} {patience : Nat}

/-! ## Moves -/

namespace Move

/-- What a move lists. -/
def listed? : Move → Option (String × Entry)
  | .list path e => some (path, e)
  | _ => none

/-- Whether a move asks to go on. -/
def isLook : Move → Bool
  | .look => true
  | _ => false

/-- Whether a move skips something. -/
def isSkip : Move → Bool
  | .skip => true
  | _ => false

end Move

section Runs

variable [MimeClassifier]

/-- The records of what is listed, with numbers as their ids. -/
def numbered (first : Nat) (listed : List (String × Entry)) : List FileRecord :=
  (listed.zipIdx first).map fun f => recordOf (UInt64.ofNat f.2) f.1.1 f.1.2

theorem numbered_cons (first : Nat) (path : String) (e : Entry) (listed : List (String × Entry)) :
    numbered first ((path, e) :: listed) =
      recordOf (UInt64.ofNat first) path e :: numbered (first + 1) listed := rfl

/-- The ids are the numbers from the first on. -/
theorem map_id_numbered (first : Nat) (listed : List (String × Entry)) :
    (numbered first listed).map (·.id) = (List.range' first listed.length).map UInt64.ofNat := by
  induction listed generalizing first with
  | nil => rfl
  | cons f listed ih =>
    rw [numbered_cons, List.map_cons, ih, List.length_cons, List.range'_succ, List.map_cons]
    rfl

/-! ## Runs -/

/-- A scan that is not interrupted lists everything. -/
theorem run_of_no_patience (hgoing : s.interrupted = false) (hpatience : s.patience = none)
    (moves : List Move) :
    s.run moves =
      { s with
        files := (numbered (s.files.length + 1) (moves.filterMap Move.listed?)).reverse ++ s.files
        skipped := s.skipped + moves.countP Move.isSkip } := by
  induction moves generalizing s with
  | nil => rfl
  | cons move moves ih =>
    rw [run_cons, step_of_not_interrupted hgoing]
    cases move with
    | look =>
      -- without a bound to its patience, a scan is the same after it has asked
      have hmake : s.make .look = s := by
        rw [make, goOn, hpatience]
      rw [hmake, ih hgoing hpatience]
      rfl
    | list path e =>
      have hlisted : (Move.list path e :: moves).filterMap Move.listed? =
          (path, e) :: moves.filterMap Move.listed? := rfl
      rw [ih (s := s.make (.list path e)) hgoing hpatience, hlisted, numbered_cons,
        List.reverse_cons, List.append_assoc]
      rfl
    | skip =>
      have hskipped : s.skipped + 1 + moves.countP Move.isSkip =
          s.skipped + (Move.skip :: moves).countP Move.isSkip := by
        rw [List.countP_cons_of_pos rfl]
        omega
      rw [ih (s := s.make .skip) hgoing hpatience, ← hskipped]
      rfl

/-- What has been listed stays listed. -/
theorem files_suffix_run (s : Scan) (moves : List Move) : s.files <:+ (s.run moves).files := by
  induction moves generalizing s with
  | nil => exact List.suffix_rfl
  | cons move moves ih =>
    rw [run_cons]
    refine List.IsSuffix.trans ?_ (ih _)
    cases hgoing : s.interrupted with
    | true => simp only [step_of_interrupted hgoing, List.suffix_rfl]
    | false =>
      rw [step_of_not_interrupted hgoing]
      cases move with
      | look =>
        rw [make, goOn]
        split <;> exact List.suffix_rfl
      | list path e => exact List.suffix_cons _ _
      | skip => exact List.suffix_rfl

/-- A scan that is interrupted when it asks once more than its patience allows.  It is not if the
moves do not ask so often, and then it has come to the end; in any case it has listed nothing but
what comes first in the whole scan. -/
theorem run_of_patience (hgoing : s.interrupted = false) (hpatience : s.patience = some patience)
    (moves : List Move) :
    ((s.run moves).interrupted = true ↔ patience < moves.countP Move.isLook) ∧
      (s.run moves).files <:+ (run { s with patience := none } moves).files ∧
      ((s.run moves).interrupted = false →
        (s.run moves).files = (run { s with patience := none } moves).files ∧
        (s.run moves).skipped = (run { s with patience := none } moves).skipped) := by
  induction moves generalizing s patience with
  | nil =>
    refine ⟨?_, List.suffix_rfl, fun _ => ⟨rfl, rfl⟩⟩
    show s.interrupted = true ↔ _
    simp [hgoing]
  | cons move moves ih =>
    have hwhole : ({ s with patience := none } : Scan).interrupted = false := hgoing
    rw [run_cons, run_cons, step_of_not_interrupted hgoing, step_of_not_interrupted hwhole]
    cases move with
    | look =>
      have hlooks : (Move.look :: moves).countP Move.isLook = moves.countP Move.isLook + 1 :=
        List.countP_cons_of_pos rfl
      have hmake : make { s with patience := none } .look = { s with patience := none } := rfl
      rw [hlooks, hmake, make, goOn, hpatience]
      cases patience with
      | zero =>
        -- this is where the scan is interrupted
        simp only [run_of_interrupted]
        exact ⟨by simp, files_suffix_run { s with patience := none } moves, by rintro ⟨⟩⟩
      | succ patience =>
        have hrest := ih (s := { s with patience := some patience }) hgoing rfl
        rw [Nat.succ_lt_succ_iff]
        exact hrest
    | list path e => exact ih (s := s.make (.list path e)) hgoing hpatience
    | skip => exact ih (s := s.make .skip) hgoing hpatience

end Runs

/-! ## Roots -/

theorem filterMap_refusal (e : Entry) : (refusal e).filterMap Move.listed? = [] := by
  rw [refusal]
  split
  · rfl
  · rfl

theorem countP_isSkip_refusal (e : Entry) :
    (refusal e).countP Move.isSkip = if e.isUnreadable then 1 else 0 := by
  rw [refusal]
  split
  · rfl
  · rfl

theorem countP_isLook_refusal (e : Entry) : (refusal e).countP Move.isLook = 0 := by
  rw [refusal]
  split
  · rfl
  · rfl

/-- What is listed below an entry. -/
theorem filterMap_course (path : String) (e : Entry) :
    (course path e).filterMap Move.listed? =
      e.listing.map fun f => (Disk.pathBelow path f.1, f.2) := by
  rw [course, List.filterMap_append, filterMap_refusal, List.nil_append]
  induction e.listing with
  | nil => rfl
  | cons f listed ih =>
    have hvisit : (visit path f).filterMap Move.listed? = [(Disk.pathBelow path f.1, f.2)] :=
      congrArg ((Disk.pathBelow path f.1, f.2) :: ·) (filterMap_refusal f.2)
    rw [List.flatMap_cons, List.filterMap_append, hvisit, ih, List.map_cons, List.singleton_append]

/-- What is skipped below an entry are the directories that cannot be listed. -/
theorem countP_isSkip_course (path : String) (e : Entry) :
    (course path e).countP Move.isSkip =
      (e :: e.listing.map (·.2)).countP Entry.isUnreadable := by
  rw [course, List.countP_append, countP_isSkip_refusal, List.countP_cons, Nat.add_comm]
  congr 1
  induction e.listing with
  | nil => rfl
  | cons f listed ih =>
    have hvisit : (visit path f).countP Move.isSkip = if f.2.isUnreadable then 1 else 0 :=
      countP_isSkip_refusal f.2
    rw [List.flatMap_cons, List.countP_append, hvisit, ih, List.map_cons, List.countP_cons,
      Nat.add_comm]

/-- The scan asks before each entry that it lists below another. -/
theorem countP_isLook_course (path : String) (e : Entry) :
    (course path e).countP Move.isLook = e.listing.length := by
  rw [course, List.countP_append, countP_isLook_refusal, Nat.zero_add]
  induction e.listing with
  | nil => rfl
  | cons f listed ih =>
    have hvisit : (visit path f).countP Move.isLook = 1 := by
      simp [visit, List.countP_cons, Move.isLook, countP_isLook_refusal]
    rw [List.flatMap_cons, List.countP_append, hvisit, ih, List.length_cons, Nat.add_comm]

end Scan

/-! ## Discovery -/

/-- What a root adds to a discovery, in order and with its path, and how much cannot be read. -/
inductive Contributes (d : Disk) (root : String) : List (String × Entry) → Nat → Prop
  | missing {fault : IoFault} (hfind : d.find false root = .error fault) :
    Contributes d root [] 1
  | single {e : Entry} (hfind : d.find false root = .ok e) (hfile : e.isDirectory = false) :
    Contributes d root [(root, e)] 0
  | directory {e : Entry} {listed : List (List FileName × Entry)}
    (hfind : d.find false root = .ok e) (hdirectory : e.isDirectory = true)
    (hlisted : e.IsListing listed) :
    Contributes d root (listed.map fun f => (Disk.pathBelow root f.1, f.2))
      ((e :: listed.map (·.2)).countP Entry.isUnreadable)

/-- What a root adds is determined by the disk. -/
theorem Contributes.unique {d : Disk} {root : String} {listed listed' : List (String × Entry)}
    {skipped skipped' : Nat} (h : Contributes d root listed skipped)
    (h' : Contributes d root listed' skipped') : listed = listed' ∧ skipped = skipped' := by
  cases h with
  | missing hfind =>
    cases h' with
    | missing => exact ⟨rfl, rfl⟩
    | single hfind' => cases hfind.symm.trans hfind'
    | directory hfind' => cases hfind.symm.trans hfind'
  | single hfind hfile =>
    cases h' with
    | missing hfind' => cases hfind.symm.trans hfind'
    | single hfind' =>
      cases hfind.symm.trans hfind'
      exact ⟨rfl, rfl⟩
    | directory hfind' hdirectory =>
      cases hfind.symm.trans hfind'
      cases hfile.symm.trans hdirectory
  | directory hfind hdirectory hlisted =>
    cases h' with
    | missing hfind' => cases hfind.symm.trans hfind'
    | single hfind' hfile =>
      cases hfind.symm.trans hfind'
      cases hfile.symm.trans hdirectory
    | directory hfind' _ hlisted' =>
      cases hfind.symm.trans hfind'
      obtain rfl := hlisted.unique hlisted'
      exact ⟨rfl, rfl⟩

namespace Scan

/-- The moves for a root, with what is there. -/
def courseAt (d : Disk) (root : String) : List Move :=
  rootCourse root (d.find false root).toOption

theorem distinctNames_of_find {d : Disk} {follow : Bool} {path : String} {e : Entry}
    (h : d.root.distinctNames = true) (hfind : d.find follow path = .ok e) :
    e.distinctNames = true := by
  obtain ⟨location, -, hfind⟩ := Value.bind_eq_ok_iff.1 hfind
  split at hfind
  · next hat =>
    cases hfind
    exact Entry.distinctNames_of_at? h hat
  · cases hfind

/-- The moves for a root list what the root adds, and skip what cannot be read. -/
theorem contributes_courseAt {d : Disk} (hnames : d.root.distinctNames = true) (root : String) :
    Contributes d root ((courseAt d root).filterMap Move.listed?)
      ((courseAt d root).countP Move.isSkip) := by
  cases hfind : d.find false root with
  | error fault =>
    rw [courseAt, hfind]
    exact .missing hfind
  | ok e =>
    rw [courseAt, hfind]
    show Contributes d root ((rootCourse root (some e)).filterMap Move.listed?)
      ((rootCourse root (some e)).countP Move.isSkip)
    rw [rootCourse]
    split
    · next hdirectory =>
      rw [filterMap_course, countP_isSkip_course]
      exact .directory hfind hdirectory
        (Entry.isListing_listing (distinctNames_of_find hnames hfind))
    · next hfile => exact .single hfind (by simpa using hfile)

/-- For a root, the scan asks as often as it lists something, or never. -/
theorem countP_isLook_courseAt_le (d : Disk) (root : String) :
    (courseAt d root).countP Move.isLook ≤
      ((courseAt d root).filterMap Move.listed?).length := by
  rw [courseAt]
  cases (d.find false root).toOption with
  | none => exact Nat.le_refl 0
  | some e =>
    rw [rootCourse]
    split
    · refine Nat.le_of_eq ?_
      rw [countP_isLook_course, filterMap_course, List.length_map]
    · exact Nat.zero_le _

/-- The moves of a whole scan. -/
def wholeCourse (d : Disk) (roots : List String) : List Move :=
  roots.flatMap fun root => .look :: courseAt d root

theorem filterMap_wholeCourse (d : Disk) (roots : List String) :
    (wholeCourse d roots).filterMap Move.listed? =
      roots.flatMap fun root => (courseAt d root).filterMap Move.listed? :=
  List.filterMap_flatMap

theorem countP_isSkip_wholeCourse (d : Disk) (roots : List String) :
    (wholeCourse d roots).countP Move.isSkip =
      (roots.map fun root => (courseAt d root).countP Move.isSkip).sum := by
  rw [wholeCourse, List.countP_flatMap]
  refine congrArg List.sum (List.map_congr_left fun root _ => ?_)
  exact List.countP_cons_of_neg Bool.false_ne_true

/-- The scan asks before each root, and not more often than that and before each entry. -/
theorem countP_isLook_wholeCourse (d : Disk) (roots : List String) :
    roots.length ≤ (wholeCourse d roots).countP Move.isLook ∧
      (wholeCourse d roots).countP Move.isLook ≤
        roots.length + ((wholeCourse d roots).filterMap Move.listed?).length := by
  induction roots with
  | nil => exact ⟨Nat.le_refl 0, Nat.le_refl 0⟩
  | cons root roots ih =>
    have hroot := countP_isLook_courseAt_le d root
    have hcons : wholeCourse d (root :: roots) =
        .look :: (courseAt d root ++ wholeCourse d roots) := rfl
    have hlisted : (Move.look :: (courseAt d root ++ wholeCourse d roots)).filterMap Move.listed? =
        (courseAt d root ++ wholeCourse d roots).filterMap Move.listed? := rfl
    rw [hcons, hlisted, List.countP_cons_of_pos rfl, List.countP_append, List.filterMap_append,
      List.length_append, List.length_cons]
    omega

end Scan

section Discovering

variable [MimeClassifier]

/-- A discovery is what a scan has come to when it has made its moves. -/
theorem discover_eq (d : Disk) (roots : List String) (patience : Option Nat) :
    discover d roots patience =
      { files := (Scan.run { patience } (Scan.wholeCourse d roots)).files.reverse
        skipped := (Scan.run { patience } (Scan.wholeCourse d roots)).skipped
        interrupted := (Scan.run { patience } (Scan.wholeCourse d roots)).interrupted } := by
  have hrun := Scan.roots_eq_run (s := { patience }) (Scan.sound_of_not_interrupted rfl)
    (roots.map fun path => (path, (d.find false path).toOption))
  rw [List.flatMap_map] at hrun
  rw [discover, hrun]
  rfl

/-- A scan that is not interrupted discovers what its moves list, and skips what they skip. -/
theorem discover_of_no_patience (d : Disk) (roots : List String) :
    discover d roots =
      { files := Scan.numbered 1 ((Scan.wholeCourse d roots).filterMap Scan.Move.listed?)
        skipped := (Scan.wholeCourse d roots).countP Scan.Move.isSkip
        interrupted := false } := by
  rw [discover_eq, Scan.run_of_no_patience rfl rfl]
  simp only [List.length_nil, List.append_nil, List.reverse_reverse, Nat.zero_add]

/-- The ids are different as long as there is an id for every number. -/
theorem Scan.map_toNat_id_numbered (listed : List (String × Entry))
    (h : listed.length < 2 ^ 64) :
    (Scan.numbered 1 listed).map (·.id.toNat) = List.range' 1 listed.length := by
  have hids := congrArg (List.map UInt64.toNat) (Scan.map_id_numbered 1 listed)
  rw [List.map_map, List.map_map] at hids
  refine hids.trans ((List.map_congr_left fun n hn => ?_).trans (List.map_id _))
  obtain ⟨-, hlt⟩ := List.mem_range'_1.1 hn
  have hsize : UInt64.size = 2 ^ 64 := rfl
  exact UInt64.toNat_ofNat_of_lt' (by omega)

/-- On a disk on which no directory has two entries of one name, a scan that is not interrupted lists
root by root what each of them adds: nothing for one that is missing, which counts as skipped; itself
for one that is no directory; and all that is strictly below it, in the order of names, for one that
is, where each directory that cannot be listed counts as skipped.  The ids are the numbers from one
on.  A scan that is interrupted, however often it has been told before to go on, has listed the first
files of that list with the same ids, and it is not said to be interrupted only if these are all. -/
theorem discover_lists_in_order (d : Disk) (roots : List String)
    (hnames : d.root.distinctNames = true) :
    ∃ parts : List (List (String × Entry) × Nat),
      List.Forall₂ (fun root part => Contributes d root part.1 part.2) roots parts ∧
      ((discover d roots).files = Scan.numbered 1 (parts.flatMap (·.1)) ∧
        (discover d roots).skipped = (parts.map (·.2)).sum ∧
        (discover d roots).interrupted = false) ∧
      ((discover d roots).files.map (·.id) =
          (List.range' 1 (parts.flatMap (·.1)).length).map UInt64.ofNat ∧
        ((parts.flatMap (·.1)).length < 2 ^ 64 →
          (discover d roots).files.map (·.id.toNat) =
            List.range' 1 (parts.flatMap (·.1)).length)) ∧
      ∃ looks, (roots.length ≤ looks ∧ looks ≤ roots.length + (parts.flatMap (·.1)).length) ∧
        ∀ patience,
          ((discover d roots (some patience)).interrupted = true ↔ patience < looks) ∧
          (discover d roots (some patience)).files <+: (discover d roots).files ∧
          ((discover d roots (some patience)).interrupted = false →
            (discover d roots (some patience)).files = (discover d roots).files ∧
            (discover d roots (some patience)).skipped = (discover d roots).skipped) := by
  -- a part is what the moves for its root list, and how often they skip
  let parts := roots.map fun root =>
    ((Scan.courseAt d root).filterMap Scan.Move.listed?,
      (Scan.courseAt d root).countP Scan.Move.isSkip)
  have hlisted : parts.flatMap (·.1) =
      (Scan.wholeCourse d roots).filterMap Scan.Move.listed? := by
    rw [Scan.filterMap_wholeCourse, List.flatMap_map]
  have hskipped : (parts.map (·.2)).sum = (Scan.wholeCourse d roots).countP Scan.Move.isSkip := by
    rw [Scan.countP_isSkip_wholeCourse, List.map_map]
    rfl
  have hparts : List.Forall₂ (fun root part => Contributes d root part.1 part.2) roots parts :=
    List.forall₂_map_right_iff.2 (List.forall₂_same.2 fun root _ =>
      Scan.contributes_courseAt hnames root)
  have hwhole := discover_of_no_patience d roots
  refine ⟨parts, hparts, ?_⟩
  rw [hlisted, hskipped]
  refine ⟨by rw [hwhole]; exact ⟨rfl, rfl, rfl⟩, ?_, ?_⟩
  · rw [hwhole]
    exact ⟨Scan.map_id_numbered 1 _, Scan.map_toNat_id_numbered _⟩
  · -- the scan is interrupted if its moves ask once more than it has patience for
    refine ⟨_, Scan.countP_isLook_wholeCourse d roots, fun patience => ?_⟩
    obtain ⟨hinterrupted, hsuffix, hcomplete⟩ := Scan.run_of_patience
      (s := { patience := some patience }) rfl rfl (Scan.wholeCourse d roots)
    rw [discover_eq d roots (some patience), discover_eq d roots none]
    -- a scan has its files the last first, so what is listed first is a suffix there
    refine ⟨hinterrupted, List.reverse_prefix.2 hsuffix, fun hgoing => ?_⟩
    obtain ⟨hfiles, hskips⟩ := hcomplete hgoing
    exact ⟨congrArg List.reverse hfiles, hskips⟩

end Discovering

/-- A directory with a link to itself, a directory that can be listed and one that cannot. -/
def nestedDirectory : Entry :=
  .directory true .epoch
    [([0x6C], .link [0x2F, 0x64] .epoch),
      ([0x62], .directory true .epoch [([0x78], .file (.bytes []) .epoch)]),
      ([0x61], .directory false .epoch [([0x79], .file (.bytes []) .epoch)])]

/-- A disk with that directory and a file, not in the order of their names. -/
def nestedDisk : Disk where
  root := .directory true .epoch [([0x66], .file (.bytes [0x31]) .epoch), ([0x64], nestedDirectory)]

/-- The whole disk, something that is missing, and the file. -/
def nestedRoots : List String := ["/", "/none", "/f"]

/-- What there is below the root of the disk, in order. -/
def nestedListing : List (List FileName × Entry) :=
  [([[0x64]], nestedDirectory),
    ([[0x64], [0x61]], .directory false .epoch [([0x79], .file (.bytes []) .epoch)]),
    ([[0x64], [0x62]], .directory true .epoch [([0x78], .file (.bytes []) .epoch)]),
    ([[0x64], [0x62], [0x78]], .file (.bytes []) .epoch),
    ([[0x64], [0x6C]], .link [0x2F, 0x64] .epoch),
    ([[0x66]], .file (.bytes [0x31]) .epoch)]

theorem listing_nestedDisk : nestedDisk.root.listing = nestedListing := by
  simp [nestedDisk, nestedDirectory, nestedListing, Entry.listing_directory,
    Entry.listing_of_not_listable (e := .file _ _) rfl,
    Entry.listing_of_not_listable (e := .link _ _) rfl,
    Entry.listing_of_not_listable (e := .directory false _ _) rfl, Disk.inOrder, List.mergeSort,
    List.MergeSort.Internal.splitInTwo, Disk.nameLe]

/-- What the roots add. -/
def nestedParts : List (List (String × Entry) × Nat) :=
  [(nestedListing.map fun f => (Disk.pathBelow "/" f.1, f.2), 1), ([], 1),
    ([("/f", .file (.bytes [0x31]) .epoch)], 0)]

theorem contributes_nestedRoots :
    List.Forall₂ (fun root part => Contributes nestedDisk root part.1 part.2) nestedRoots
      nestedParts := by
  have hlisting : nestedDisk.root.IsListing nestedListing :=
    listing_nestedDisk ▸ Entry.isListing_listing (by decide)
  have hroot : nestedDisk.find false "/" = .ok nestedDisk.root := by
    have hsteps : Disk.steps (Text.Utf8.encode "/") = [Disk.here] := by decide
    have hlocate : nestedDisk.locate false "/" = .ok [] := by
      rw [Disk.locate_eq_resolve rfl rfl, hsteps, Disk.resolve_here, Disk.resolve]
      rfl
    exact Disk.find_of_locate hlocate rfl
  have hmissing : nestedDisk.find false "/none" = .error .notFound := by
    have hsteps : Disk.steps (Text.Utf8.encode "/none") = [Text.Utf8.encode "none"] := by decide
    have hplain : Disk.Plain (Text.Utf8.encode "none") := ⟨by decide, by decide, by decide⟩
    have hlocate : nestedDisk.locate false "/none" = .ok [Text.Utf8.encode "none"] := by
      rw [Disk.locate_eq_resolve rfl rfl, hsteps, hplain.resolve_absent rfl]
      rfl
    exact Disk.find_of_locate_absent hlocate rfl
  have hfile : nestedDisk.find false "/f" = .ok (.file (.bytes [0x31]) .epoch) := by
    have hsteps : Disk.steps (Text.Utf8.encode "/f") = [Text.Utf8.encode "f"] := by decide
    have hplain : Disk.Plain (Text.Utf8.encode "f") := ⟨by decide, by decide, by decide⟩
    have hlocate : nestedDisk.locate false "/f" = .ok [Text.Utf8.encode "f"] := by
      rw [Disk.locate_eq_resolve rfl rfl, hsteps, hplain.resolve_file rfl]
      rfl
    exact Disk.find_of_locate hlocate rfl
  exact .cons (.directory hroot rfl hlisting)
    (.cons (.missing hmissing) (.cons (.single hfile rfl) .nil))

/-- The unreadable directory is skipped and so is the missing root, nothing is listed through the
link, and the file is listed twice. -/
theorem nestedDisk_listed_in_order :
    ((discover nestedDisk nestedRoots).files.map fun f => (f.id, f.fullPath)) =
        [(1, "/d"), (2, "/d/a"), (3, "/d/b"), (4, "/d/b/x"), (5, "/d/l"), (6, "/f"), (7, "/f")] ∧
      (discover nestedDisk nestedRoots).skipped = 2 ∧
      (discover nestedDisk nestedRoots (some 2)).interrupted = true ∧
      (discover nestedDisk nestedRoots (some 2)).files <+:
        (discover nestedDisk nestedRoots).files ∧
      (discover nestedDisk nestedRoots (some 10)).files =
        (discover nestedDisk nestedRoots).files := by
  obtain ⟨parts, hparts, ⟨hfiles, hskipped, -⟩, -, looks, ⟨hleast, hmost⟩, hpatience⟩ :=
    discover_lists_in_order nestedDisk nestedRoots (by decide)
  obtain rfl : parts = nestedParts := by
    refine Relator.RightUnique.forall₂ ?_ hparts contributes_nestedRoots
    intro root part part' h h'
    obtain ⟨hlisted, hskipped⟩ := h.unique h'
    exact Prod.ext hlisted hskipped
  have hlength : (nestedParts.flatMap (·.1)).length = 7 := rfl
  have hroots : nestedRoots.length = 3 := rfl
  refine ⟨?_, hskipped, ?_, (hpatience 2).2.1, ?_⟩
  · rw [hfiles]
    decide +kernel
  · exact (hpatience 2).1.2 (by omega)
  · refine ((hpatience 10).2.2 ?_).1
    have hpatient : ¬ 10 < looks := by omega
    exact Bool.eq_false_iff.2 fun h => hpatient ((hpatience 10).1.1 h)

end FileTriage
