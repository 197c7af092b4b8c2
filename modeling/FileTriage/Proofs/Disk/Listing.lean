/-
Listing a directory.

Names are compared byte by byte, which orders them linearly (`nameLe_iff`), so the entries of a
directory have one order whatever order they are kept in.  A listing succeeds exactly where the path
leads to a directory that can be listed (`list_eq_ok_iff`).
-/
import FileTriage.Proofs.Data.Decoding
import FileTriage.Proofs.Disk.Replace

namespace FileTriage.Disk

open Value (bind_eq_ok_iff)

/-! ## The order of names -/

theorem nameLe_iff (a b : FileName) : nameLe a b = true ↔ a ≤ b := by
  induction a generalizing b with
  | nil => simp [nameLe]
  | cons x a ih =>
    cases b with
    | nil => simp [nameLe]
    | cons y b =>
      rw [List.cons_le_cons_iff, nameLe]
      split
      · next h => simp [h, ih]
      · next h => simp [h]

theorem nameLe_refl (a : FileName) : nameLe a a = true := (nameLe_iff a a).2 (List.le_refl a)

theorem nameLe_antisymm {a b : FileName} (hab : nameLe a b = true) (hba : nameLe b a = true) :
    a = b :=
  List.le_antisymm ((nameLe_iff a b).1 hab) ((nameLe_iff b a).1 hba)

theorem nameLe_trans (a b c : FileName) (hab : nameLe a b = true) (hbc : nameLe b c = true) :
    nameLe a c = true :=
  (nameLe_iff a c).2 (List.le_trans ((nameLe_iff a b).1 hab) ((nameLe_iff b c).1 hbc))

theorem nameLe_total (a b : FileName) : (nameLe a b || nameLe b a) = true := by
  rw [Bool.or_eq_true, nameLe_iff, nameLe_iff]
  exact List.le_total a b

/-! ## The entries of a directory -/

theorem inOrder_perm (entries : List (FileName × Entry)) : (inOrder entries).Perm entries :=
  List.mergeSort_perm _ _

theorem inOrder_pairwise (entries : List (FileName × Entry)) :
    (inOrder entries).Pairwise fun a b => nameLe a.1 b.1 = true :=
  List.pairwise_mergeSort (fun a b c => nameLe_trans a.1 b.1 c.1)
    (fun a b => nameLe_total a.1 b.1) entries

/-- Entries of different names come in a strict order. -/
theorem inOrder_pairwise_lt {entries : List (FileName × Entry)}
    (h : (entries.map (·.1)).Nodup) : (inOrder entries).Pairwise fun a b => a.1 < b.1 := by
  have hnodup : ((inOrder entries).map (·.1)).Nodup :=
    ((inOrder_perm entries).map _).nodup_iff.2 h
  refine ((inOrder_pairwise entries).and (List.pairwise_map.1 hnodup)).imp ?_
  rintro a b ⟨hle, hne⟩
  exact (List.le_iff_lt_or_eq.1 ((nameLe_iff a.1 b.1).1 hle)).resolve_right hne

variable {d : Disk} {path : String} {location names : List FileName}

/-- A path leads to a directory that can be listed and has entries of these names. -/
structure Lists (d : Disk) (path : String) (location names : List FileName) : Prop where
  located : d.locate true path = .ok location
  listed : ∃ modified entries,
    d.root.at? location = some (.directory true modified entries) ∧ names = entries.map (·.1)

theorem Lists.unique {location' names' : List FileName} (h : d.Lists path location names)
    (h' : d.Lists path location' names') : location = location' ∧ names = names' := by
  obtain ⟨hlocated, modified, entries, hat, rfl⟩ := h
  obtain ⟨hlocated', modified', entries', hat', rfl⟩ := h'
  obtain rfl := Except.ok.inj (hlocated.symm.trans hlocated')
  cases hat.symm.trans hat'
  exact ⟨rfl, rfl⟩

theorem list_eq_ok_iff {entries : List (FileName × Entry)} :
    d.list path = .ok entries ↔ ∃ location modified there, d.locate true path = .ok location ∧
      d.root.at? location = some (.directory true modified there) ∧ entries = inOrder there := by
  rw [list, bind_eq_ok_iff]
  constructor
  · rintro ⟨e, hfind, hlist⟩
    obtain ⟨location, hlocated, hfind⟩ := bind_eq_ok_iff.1 hfind
    split at hfind
    · next hat =>
      cases hfind
      split at hlist
      · cases hlist
        exact ⟨location, _, _, hlocated, hat, rfl⟩
      · cases hlist
      · cases hlist
    · cases hfind
  · rintro ⟨location, modified, there, hlocated, hat, rfl⟩
    exact ⟨.directory true modified there, find_of_locate hlocated hat, rfl⟩

/-- A file of a directory is read under its name. -/
theorem findFrom_file {name : FileName} {bytes : List UInt8} {modified : Instant}
    (hname : Plain name)
    (h : d.root.at? (location ++ [name]) = some (.file (.bytes bytes) modified)) :
    d.findFrom location [name] >>= bytesOf = .ok bytes := by
  have hsight : (d.root.at? (location ++ [name])).map Entry.sight = some .file := by
    rw [h]
    rfl
  rw [findFrom, hname.resolve_file hsight]
  simp only [List.isEmpty_nil, if_true, bind, Except.bind, h]
  rfl

end FileTriage.Disk
