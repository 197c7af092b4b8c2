/-
Splitting a path and joining it again.

A path is read with one kind of separator and from the root on, and every path so read ends in a
separator and a name without one, in exactly one way.  The split finds that way (`splitPath_eq`), so
parent path and name together are the path, and the joined path differs from it only in that the
separators before the name have become one.  A joined path is read as it stands, so it splits at the
same place.
-/
import FileTriage.File
import FileTriage.Proofs.Path

namespace FileTriage

namespace Path

variable {path : List Char}

/-- A path with one kind of separator, and with one before it unless it begins with one. -/
def rooted (path : List Char) : List Char :=
  if (unifySeparators path).head? = some '/' then unifySeparators path
  else '/' :: unifySeparators path

theorem head?_rooted (path : List Char) : (rooted path).head? = some '/' := by
  rw [rooted]
  split
  · next h => exact h
  · rfl

theorem not_mem_rooted (path : List Char) : '\\' ∉ rooted path := by
  have hunified := not_mem_unifySeparators path
  rw [rooted]
  split
  · exact hunified
  · rw [List.mem_cons, not_or]
    exact ⟨by decide, hunified⟩

/-- A path from the root on that has one kind of separator is read as it stands. -/
theorem rooted_of_head? (hhead : path.head? = some '/') (hback : '\\' ∉ path) :
    rooted path = path := by
  rw [rooted, unifySeparators_of_not_mem hback, if_pos hhead]

/-- Every path ends in a separator and a name. -/
theorem exists_rooted_eq (path : List Char) :
    ∃ before name, '/' ∉ name ∧ rooted path = before ++ '/' :: name := by
  have hmem : '/' ∈ rooted path := List.mem_of_mem_head? (head?_rooted path)
  obtain ⟨before, name, heq, hname⟩ := exists_append_cons_of_mem hmem
  exact ⟨before, name, hname, heq⟩

/-- What begins a text still begins it when what stands after a separator is left out. -/
theorem head?_append_separator (before name : List Char) :
    (before ++ ['/']).head? = (before ++ '/' :: name).head? := by
  cases before with
  | nil => rfl
  | cons c before => rfl

end Path

namespace FileRecord

open FileTriage.Path

variable {path : String} {before name : List Char}

/-- The split is the one way in which a path ends in a separator and a name. -/
theorem splitPath_eq {path : List Char} (hname : '/' ∉ name)
    (hpath : rooted path = before ++ '/' :: name) :
    splitPath path = (before ++ ['/'], name) := by
  rw [rooted] at hpath
  by_cases hhead : (unifySeparators path).head? = some '/'
  · -- the path begins with a separator, and so does what stands before the name
    rw [if_pos hhead] at hpath
    have hparent : (before ++ ['/']).head? = some '/' := by
      rw [head?_append_separator before name, ← hpath, hhead]
    simp only [splitPath, hpath, beforeLast_append_cons before hname, hparent, if_true,
      lastComponent_append_cons before hname]
  · rw [if_neg hhead] at hpath
    cases before with
    | nil =>
      -- the only separator is the one that has been put before the path
      have hunified : unifySeparators path = name := (List.cons.inj hpath).2
      simp only [splitPath, hunified, beforeLast_of_not_mem hname, lastComponent_of_not_mem hname]
      rfl
    | cons c before =>
      rw [List.cons_append] at hpath
      obtain ⟨rfl, hunified⟩ := List.cons.inj hpath
      have hparent : (before ++ ['/']).head? ≠ some '/' := by
        rw [head?_append_separator before name, ← hunified]
        exact hhead
      simp only [splitPath, hunified, beforeLast_append_cons before hname, if_neg hparent,
        lastComponent_append_cons before hname, List.cons_append]

/-- A record of a path has what stands before the name as its parent path. -/
theorem ofPath_eq (id : UInt64) (hname : '/' ∉ name)
    (hpath : rooted path.toList = before ++ '/' :: name) :
    ofPath id path =
      { id, name := String.ofList name, extension := extensionOf (String.ofList name)
        parentPath := String.ofList (before ++ ['/']) } := by
  rw [ofPath, splitPath_eq hname hpath]

/-- Joined again, the path has one separator before the name. -/
theorem toList_fullPath_ofPath (id : UInt64) (hname : '/' ∉ name)
    (hpath : rooted path.toList = before ++ '/' :: name) :
    (ofPath id path).fullPath.toList = dropTrailing '/' before ++ '/' :: name := by
  have hdrop : dropTrailing '/' (before ++ ['/']) = dropTrailing '/' before :=
    dropTrailing_append_replicate '/' before 1
  rw [ofPath_eq id hname hpath, fullPath]
  simp only [String.toList_append, String.toList_ofList, hdrop, List.append_assoc]
  rfl

/-- A joined path is read as it stands. -/
theorem rooted_fullPath_ofPath (id : UInt64) (hname : '/' ∉ name)
    (hpath : rooted path.toList = before ++ '/' :: name) :
    rooted (ofPath id path).fullPath.toList = dropTrailing '/' before ++ '/' :: name := by
  obtain ⟨n, hn⟩ := exists_dropTrailing_append_replicate '/' before
  rw [toList_fullPath_ofPath id hname hpath]
  refine rooted_of_head? ?_ ?_
  · -- if nothing but separators stands before the name, the one that is put there comes first
    have hhead := head?_rooted path.toList
    rw [hpath, hn] at hhead
    cases hdir : dropTrailing '/' before with
    | nil => rfl
    | cons c dir =>
      rw [hdir] at hhead
      exact hhead
  · have hback := not_mem_rooted path.toList
    rw [hpath, hn] at hback
    simp only [List.mem_append, List.mem_cons, not_or] at hback ⊢
    exact ⟨hback.1.1, hback.2⟩

/-- Reading a path as one from the root on with one kind of separator: the name that a record of it
gets has no separator, the parent path begins and ends with one, and both together are that path.
The joined path is that path with the separators before the name replaced by one, and a record of
the joined path has the same name, extension and joined path. -/
theorem ofPath_keeps_path (id : UInt64) (path : String) :
    let r := ofPath id path
    '/' ∉ r.name.toList ∧
    (r.parentPath.toList.head? = some '/' ∧ r.parentPath.toList.getLast? = some '/') ∧
    (r.parentPath ++ r.name).toList = rooted path.toList ∧
    (∃ dir n, dir.getLast? ≠ some '/' ∧
      rooted path.toList = dir ++ List.replicate (n + 1) '/' ++ r.name.toList ∧
      r.fullPath.toList = dir ++ '/' :: r.name.toList) ∧
    ∀ other, (ofPath other r.fullPath).name = r.name ∧
      (ofPath other r.fullPath).extension = r.extension ∧
      (ofPath other r.fullPath).fullPath = r.fullPath := by
  intro r
  obtain ⟨before, name, hname, hpath⟩ := exists_rooted_eq path.toList
  obtain ⟨n, hn⟩ := exists_dropTrailing_append_replicate '/' before
  have hr := ofPath_eq id hname hpath
  have hfull := toList_fullPath_ofPath id hname hpath
  have hagain := rooted_fullPath_ofPath id hname hpath
  have hrname : r.name = String.ofList name := congrArg FileRecord.name hr
  have hrparent : r.parentPath = String.ofList (before ++ ['/']) :=
    congrArg FileRecord.parentPath hr
  rw [hrname, hrparent, String.toList_append, String.toList_ofList, String.toList_ofList]
  refine ⟨hname, ⟨?_, List.getLast?_concat⟩, ?_, ⟨dropTrailing '/' before, n, ?_, ?_, hfull⟩, ?_⟩
  · rw [head?_append_separator before name, ← hpath]
    exact head?_rooted path.toList
  · rw [hpath, List.append_assoc, List.singleton_append]
  · exact getLast?_dropTrailing '/' before
  · rw [hpath, List.replicate_succ', ← List.append_assoc, ← hn, List.append_assoc,
      List.singleton_append]
  · intro other
    have hother := ofPath_eq other hname hagain
    refine ⟨congrArg FileRecord.name hother, ?_, ?_⟩
    · rw [hother]
      exact (congrArg FileRecord.extension hr).symm
    · -- nothing is left to be dropped
      refine String.toList_inj.1 ?_
      rw [toList_fullPath_ofPath other hname hagain,
        dropTrailing_of_getLast? (getLast?_dropTrailing '/' before)]
      exact hfull.symm

/-- Separators in a row, of both kinds, become one before the name and stay elsewhere. -/
example : (ofPath 1 "a//b\\\\c.TXT").parentPath = "/a//b//" ∧
    (ofPath 1 "a//b\\\\c.TXT").fullPath = "/a//b/c.TXT" := by
  decide +kernel

end FileRecord

end FileTriage
