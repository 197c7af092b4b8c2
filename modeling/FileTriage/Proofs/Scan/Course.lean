/-
The course of a scan.

A scan makes one move after the other: it asks whether to go on, lists an entry, or counts one that
it cannot read.  What it does in a tree is these moves over the listing of the tree, however deep its
directories are nested (`below_inOrder_eq_run`): once a scan has been interrupted, it is told so
every time it asks, and it asks before every entry, so nothing is done any more in the directories
that it has not left yet.  All that an interruption changes is then a fact about lists of moves
(`run_of_patience`).
-/
import FileTriage.Proofs.Disk.Tree
import FileTriage.Scan

namespace FileTriage

/-- Whether the entry is a directory that cannot be listed. -/
def Entry.isUnreadable : Entry → Bool
  | .directory readable _ _ => !readable
  | _ => false

/-- The path to what names lead to from the end of a path. -/
def Disk.pathBelow (path : String) (names : List FileName) : String :=
  names.foldl (fun path name => join path (Text.Utf8.decodeLossy name)) path

namespace Scan

variable {s : Scan} {path : String} {e : Entry} {moves : List Move}

/-- What a scan does next. -/
inductive Move where
  | look
  | list (path : String) (e : Entry)
  | skip

/-- The move that is made for a directory that cannot be listed. -/
def refusal (e : Entry) : List Move := if e.isUnreadable then [.skip] else []

/-- The moves for something below a path. -/
def visit (path : String) (f : List FileName × Entry) : List Move :=
  .look :: .list (Disk.pathBelow path f.1) f.2 :: refusal f.2

/-- The moves for all that is below an entry, in the order of the listing. -/
def course (path : String) (e : Entry) : List Move :=
  refusal e ++ e.listing.flatMap (visit path)

/-- The moves for a root. -/
def rootCourse (path : String) : Option Entry → List Move
  | none => [.skip]
  | some e => if e.isDirectory then course path e else [.list path e]

/-! ## Asking -/

/-- An interrupted scan is told so again when it asks. -/
def Sound (s : Scan) : Prop := s.interrupted = true → s.patience = some 0

theorem sound_of_not_interrupted (h : s.interrupted = false) : s.Sound :=
  fun hinterrupted => absurd hinterrupted (Bool.eq_false_iff.1 h)

theorem goOn_of_interrupted (h : s.Sound) (hinterrupted : s.interrupted = true) :
    s.goOn = (false, s) := by
  have hpatience := h hinterrupted
  obtain ⟨files, skipped, interrupted, patience⟩ := s
  cases hpatience
  cases hinterrupted
  rfl

/-! ## Moves -/

section Moves

variable [MimeClassifier]

/-- What a move does. -/
def make (s : Scan) : Move → Scan
  | .look => s.goOn.2
  | .list path e => s.record path e
  | .skip => { s with skipped := s.skipped + 1 }

/-- Makes a move, unless the scan has been interrupted. -/
def step (s : Scan) (move : Move) : Scan := if s.interrupted then s else s.make move

/-- Makes moves one after the other. -/
def run (s : Scan) (moves : List Move) : Scan := moves.foldl step s

theorem run_cons (s : Scan) (move : Move) (moves : List Move) :
    s.run (move :: moves) = (s.step move).run moves := rfl

theorem run_append (s : Scan) (moves more : List Move) :
    s.run (moves ++ more) = (s.run moves).run more :=
  List.foldl_append

theorem step_of_interrupted (h : s.interrupted = true) (move : Move) : s.step move = s := if_pos h

theorem step_of_not_interrupted (h : s.interrupted = false) (move : Move) :
    s.step move = s.make move :=
  if_neg (Bool.eq_false_iff.1 h)

theorem run_of_interrupted (h : s.interrupted = true) (moves : List Move) : s.run moves = s := by
  induction moves with
  | nil => rfl
  | cons move moves ih => rw [run_cons, step_of_interrupted h, ih]

theorem Sound.step (h : s.Sound) (move : Move) : (s.step move).Sound := by
  cases hgoing : s.interrupted with
  | true =>
    rw [step_of_interrupted hgoing]
    exact h
  | false =>
    rw [step_of_not_interrupted hgoing]
    cases move with
    | look =>
      rw [make, goOn]
      split
      · exact h
      · next hpatience => exact fun _ => hpatience
      · exact sound_of_not_interrupted hgoing
    | list path e => exact sound_of_not_interrupted hgoing
    | skip => exact sound_of_not_interrupted hgoing

theorem Sound.run (h : s.Sound) (moves : List Move) : (s.run moves).Sound := by
  induction moves generalizing s with
  | nil => exact h
  | cons move moves ih => exact ih (h.step move)

/-- A loop that asks before it does something, and returns if it is not to go on, makes the move of
asking and then those of what it does. -/
theorem match_goOn_eq_run (h : s.Sound) {rest : Scan → Scan}
    (hrest : ∀ s, s.interrupted = false → rest s = s.run moves) :
    (match s.goOn with
      | (false, s) => s
      | (true, s) => rest s) = s.run (.look :: moves) := by
  cases hgoing : s.interrupted with
  | true => rw [goOn_of_interrupted h hgoing, run_of_interrupted hgoing]
  | false =>
    rw [run_cons, step_of_not_interrupted hgoing, make, goOn]
    cases hpatience : s.patience with
    | none => exact hrest s hgoing
    | some n =>
      cases n with
      -- the loop returns here, and the moves that are left do nothing
      | zero => exact (run_of_interrupted rfl moves).symm
      | succ n => exact hrest _ hgoing

end Moves

/-! ## Trees -/

/-- The moves for an entry of a directory and for what is below it. -/
def entryCourse (directory : String) (c : FileName × Entry) : List Move :=
  .look :: .list (Disk.join directory (Text.Utf8.decodeLossy c.1)) c.2 ::
    course (Disk.join directory (Text.Utf8.decodeLossy c.1)) c.2

/-- A directory that can be listed is gone through entry by entry. -/
theorem course_directory (path : String) (modified : Instant)
    (entries : List (FileName × Entry)) :
    course path (.directory true modified entries) =
      (Disk.inOrder entries).flatMap (entryCourse path) := by
  have hnone : refusal (.directory true modified entries) = [] := rfl
  rw [course, hnone, List.nil_append, Entry.listing_directory, List.flatMap_assoc]
  refine List.flatMap_congr fun c _ => ?_
  rw [List.flatMap_cons, List.flatMap_map]
  rfl

theorem course_of_not_listable (path : String) (h : e.isListable = false) :
    course path e = refusal e := by
  rw [course, Entry.listing_of_not_listable h, List.flatMap_nil, List.append_nil]

theorem allInOrder_eq_map (entries : List (FileName × Entry)) :
    allInOrder entries = entries.map fun c => (c.1, inOrder c.2) := by
  induction entries with
  | nil => rfl
  | cons c entries ih => rw [allInOrder, ih, List.map_cons]

/-- It makes no difference whether the entries or what is below them is put in order first. -/
theorem inOrder_directory (readable : Bool) (modified : Instant)
    (entries : List (FileName × Entry)) :
    inOrder (.directory readable modified entries) =
      .directory readable modified ((Disk.inOrder entries).map fun c => (c.1, inOrder c.2)) := by
  have horder : (Disk.inOrder entries).map (fun c => (c.1, inOrder c.2)) =
      Disk.inOrder (entries.map fun c => (c.1, inOrder c.2)) :=
    List.map_mergeSort fun _ _ _ _ => rfl
  rw [inOrder, allInOrder_eq_map, horder]

variable [MimeClassifier]

/-- The record of an entry does not depend on the order of what is below it. -/
theorem record_inOrder (s : Scan) (path : String) (e : Entry) :
    s.record path (inOrder e) = s.record path e := by
  cases e with
  | file content modified => rfl
  | link target modified => rfl
  | directory readable modified entries => rfl

/-- The entries of a directory, if each of them is gone through as its course has it. -/
theorem all_eq_run {directory : String} {entries : List (FileName × Entry)}
    (h : ∀ c ∈ entries, ∀ (s : Scan) path, s.interrupted = false →
      below s path (inOrder c.2) = s.run (course path c.2)) (hs : s.Sound) :
    all s directory (entries.map fun c => (c.1, inOrder c.2)) =
      s.run (entries.flatMap (entryCourse directory)) := by
  induction entries generalizing s with
  | nil => rfl
  | cons c entries ih =>
    rw [List.map_cons, all, List.flatMap_cons, entryCourse, List.cons_append, List.cons_append]
    generalize Disk.join directory (Text.Utf8.decodeLossy c.1) = path
    refine match_goOn_eq_run hs fun s hgoing => ?_
    have hrecord : (s.record path c.2).interrupted = false := hgoing
    show all (below (s.record path (inOrder c.2)) path (inOrder c.2)) directory _ = _
    rw [run_cons, step_of_not_interrupted hgoing, make, run_append, record_inOrder,
      h c List.mem_cons_self _ _ hrecord]
    refine ih (fun c hc => h c (List.mem_cons_of_mem _ hc)) ?_
    exact (sound_of_not_interrupted hrecord).run _

/-- What is below an entry is gone through in the order of its listing. -/
theorem below_inOrder_eq_run (e : Entry) (s : Scan) (path : String) (h : s.interrupted = false) :
    below s path (inOrder e) = s.run (course path e) := by
  induction e using Entry.induction generalizing s path with
  | leaf e hleaf =>
    rw [course_of_not_listable path hleaf]
    cases e with
    | file content modified => rfl
    | link target modified => rfl
    | directory readable modified entries =>
      -- a directory that cannot be listed is counted, and that is all
      cases hleaf
      exact (step_of_not_interrupted h .skip).symm
  | directory modified entries ih =>
    rw [course_directory, inOrder_directory, below]
    refine all_eq_run (fun c hc s path => ?_) (sound_of_not_interrupted h)
    exact ih c ((Disk.inOrder_perm entries).mem_iff.1 hc) s path

/-- A root is gone through as its course has it. -/
theorem root_eq_run (path : String) (e : Option Entry) (h : s.interrupted = false) :
    s.root path e = s.run (rootCourse path e) := by
  cases e with
  | none => exact (step_of_not_interrupted h .skip).symm
  | some e =>
    rw [root, rootCourse]
    split
    · exact below_inOrder_eq_run e s path h
    · exact (step_of_not_interrupted h (.list path e)).symm

/-- And so is one root after the other. -/
theorem roots_eq_run (hs : s.Sound) (found : List (String × Option Entry)) :
    s.roots found = s.run (found.flatMap fun r => .look :: rootCourse r.1 r.2) := by
  induction found generalizing s with
  | nil => rfl
  | cons r found ih =>
    rw [roots, List.flatMap_cons, List.cons_append]
    refine match_goOn_eq_run hs fun s hgoing => ?_
    rw [run_append, root_eq_run r.1 r.2 hgoing]
    exact ih ((sound_of_not_interrupted hgoing).run _)

end Scan

end FileTriage
