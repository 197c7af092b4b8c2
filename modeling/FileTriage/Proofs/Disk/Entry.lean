/-
What stands where after a file has been put somewhere.

`Entry.put` is seen through `Entry.at?`.  What leads the way along a path is not the whole entry at
each of its names but only its sight: whether it is a file, a directory, or a link and where it
points.  Putting a file somewhere changes the sight of no other place.
-/
import FileTriage.Disk.Entry
import Mathlib.Data.List.Basic

namespace FileTriage

/-- An entry as far as it leads the way. -/
inductive Sight where
  | file
  | directory
  | link (target : List UInt8)
deriving DecidableEq

namespace Entry

/-- The sight of an entry. -/
def sight : Entry → Sight
  | file .. => .file
  | link target _ => .link target
  | directory .. => .directory

variable {e new : Entry} {name k : FileName} {now : Instant} {p l : List FileName}

/-- Only a directory has entries. -/
theorem child?_eq_none (h : e.sight ≠ .directory) (k : FileName) : e.child? k = none := by
  cases e with
  | file => rfl
  | link => rfl
  | directory => exact absurd rfl h

/-! ## Entries of a directory -/

@[simp] theorem sight_setChild (e : Entry) (name : FileName) (now : Instant) (new : Option Entry) :
    (e.setChild name now new).sight = e.sight := by
  cases e with
  | file => rfl
  | link => rfl
  | directory readable t entries =>
    cases new with
    | none => rfl
    | some new =>
      rw [setChild]
      split
      · rfl
      · rfl

@[simp] theorem sight_changeChild (e : Entry) (name : FileName) (change : Entry → Entry) :
    (e.changeChild name change).sight = e.sight := by
  cases e with
  | file => rfl
  | link => rfl
  | directory => rfl

/-- What a list of entries has under a name when the entries under one name have been changed. -/
theorem map_find?_map (entries : List (FileName × Entry)) (change : Entry → Entry) :
    ((entries.map fun c => if c.1 = name then (name, change c.2) else c).find?
        fun c => c.1 = k).map (·.2) =
      if name = k then ((entries.find? fun c => c.1 = k).map (·.2)).map change
      else (entries.find? fun c => c.1 = k).map (·.2) := by
  induction entries with
  | nil => by_cases hk : name = k <;> simp [hk]
  | cons c rest ih =>
    by_cases hc : c.1 = name
    · by_cases hk : name = k
      · simp [hc, hk]
      · have hck : ¬ c.1 = k := fun h => hk (hc.symm.trans h)
        simpa [hc, hk, hck] using ih
    · by_cases hck : c.1 = k
      · subst hck
        have hk : ¬ name = c.1 := fun h => hc h.symm
        simp [hc, hk]
      · simpa [hc, hck] using ih

theorem child?_changeChild (e : Entry) (name k : FileName) (change : Entry → Entry) :
    (e.changeChild name change).child? k =
      if name = k then (e.child? k).map change else e.child? k := by
  cases e with
  | file => exact (ite_self none).symm
  | link => exact (ite_self none).symm
  | directory readable t entries => exact map_find?_map entries change

/-- A directory has an entry that has been put into it, and its other ones. -/
theorem child?_setChild (h : e.sight = .directory) (name k : FileName) (now : Instant)
    (new : Entry) :
    (e.setChild name now (some new)).child? k = if name = k then some new else e.child? k := by
  cases e with
  | file => cases h
  | link => cases h
  | directory readable t entries =>
    rw [setChild]
    split
    · next hany =>
      refine (map_find?_map entries fun _ => new).trans ?_
      split
      · next hk =>
        subst hk
        obtain ⟨c, hc, hname⟩ := List.any_eq_true.1 hany
        have hsome : (entries.find? fun c => c.1 = name).isSome = true :=
          List.find?_isSome.2 ⟨c, hc, hname⟩
        obtain ⟨found, hfound⟩ := Option.isSome_iff_exists.1 hsome
        rw [hfound]
        rfl
      · rfl
    · next hnone =>
      have hfree : ∀ c ∈ entries, c.1 ≠ name := by
        intro c hc heq
        exact hnone (List.any_eq_true.2 ⟨c, hc, decide_eq_true heq⟩)
      rw [child?, child?, Entry.entries, Entry.entries, List.find?_append]
      split
      · next hk =>
        subst hk
        have hnot : (entries.find? fun c => c.1 = name) = none :=
          List.find?_eq_none.2 fun c hc => by simpa using hfree c hc
        simp [hnot]
      · next hk => simp [hk]

/-! ## Paths -/

theorem at?_cons (e : Entry) (name : FileName) (p : List FileName) :
    e.at? (name :: p) = (e.child? name).bind (·.at? p) := rfl

/-- Only below a directory is there anything. -/
theorem at?_eq_none (h : e.sight ≠ .directory) (hp : p ≠ []) : e.at? p = none := by
  cases p with
  | nil => exact absurd rfl hp
  | cons name p => rw [at?_cons, child?_eq_none h, Option.bind_none]

theorem at?_append (e : Entry) (p q : List FileName) :
    e.at? (p ++ q) = (e.at? p).bind (·.at? q) := by
  induction p generalizing e with
  | nil => rfl
  | cons name p ih =>
    rw [List.cons_append, at?_cons, at?_cons, Option.bind_assoc]
    exact Option.bind_congr fun c _ => ih c

/-- What has an entry is a directory. -/
theorem sight_of_at?_append (h : (e.at? (p ++ [k])).isSome = true) :
    (e.at? p).map sight = some .directory := by
  rw [at?_append] at h
  cases hp : e.at? p with
  | none =>
    rw [hp] at h
    cases h
  | some parent =>
    by_contra hsight
    rw [Option.map_some, Option.some.injEq] at hsight
    rw [hp, Option.bind_some, at?_eq_none hsight (List.cons_ne_nil _ _)] at h
    cases h

theorem put_cons (e : Entry) (now : Instant) (new : Option Entry) (name : FileName) (hp : p ≠ []) :
    e.put now new (name :: p) = e.changeChild name fun c => c.put now new p := by
  cases p with
  | nil => exact absurd rfl hp
  | cons next p => rfl

/-- What has been put into a directory is there. -/
theorem at?_put_self {parent : Entry} (h : e.at? p = some parent)
    (hparent : parent.sight = .directory) (now : Instant) (name : FileName) (new : Entry) :
    (e.put now (some new) (p ++ [name])).at? (p ++ [name]) = some new := by
  induction p generalizing e with
  | nil =>
    cases h
    rw [List.nil_append, put, at?_cons, child?_setChild hparent, if_pos rfl]
    rfl
  | cons first p ih =>
    rw [at?_cons, Option.bind_eq_some_iff] at h
    obtain ⟨c, hc, hrest⟩ := h
    have hmore : p ++ [name] ≠ [] := List.append_ne_nil_of_right_ne_nil _ (List.cons_ne_nil _ _)
    rw [List.cons_append, put_cons _ _ _ _ hmore, at?_cons, child?_changeChild, if_pos rfl, hc,
      Option.map_some, Option.bind_some]
    exact ih hrest

/-- What has been put into a directory changes none of its other entries. -/
theorem at?_put_of_ne {parent : Entry} (h : e.at? p = some parent)
    (hparent : parent.sight = .directory) (now : Instant) (new : Entry) (hk : name ≠ k) :
    (e.put now (some new) (p ++ [name])).at? (p ++ [k]) = e.at? (p ++ [k]) := by
  induction p generalizing e with
  | nil =>
    cases h
    rw [List.nil_append, List.nil_append, put, at?_cons, at?_cons, child?_setChild hparent,
      if_neg hk]
  | cons first p ih =>
    rw [at?_cons, Option.bind_eq_some_iff] at h
    obtain ⟨c, hc, hrest⟩ := h
    have hmore : p ++ [name] ≠ [] := List.append_ne_nil_of_right_ne_nil _ (List.cons_ne_nil _ _)
    rw [List.cons_append, List.cons_append, put_cons _ _ _ _ hmore, at?_cons, at?_cons,
      child?_changeChild, if_pos rfl, hc, Option.map_some, Option.bind_some, Option.bind_some]
    exact ih hrest

/-- Where something with nothing below it is put in the place of something that is no directory, no
other place changes its sight. -/
theorem sight_at?_put (hold : ∀ old, e.at? l = some old → old.sight ≠ .directory)
    (hnew : ∀ below, below ≠ [] → new.at? below = none) (now : Instant) (hp : p ≠ l) :
    ((e.put now (some new) l).at? p).map sight = (e.at? p).map sight := by
  induction l generalizing e p with
  | nil => rfl
  | cons name l ih =>
    cases p with
    | nil =>
      cases l with
      | nil => exact congrArg some (sight_setChild e name now (some new))
      | cons next l => exact congrArg some (sight_changeChild e name _)
    | cons k p =>
      cases hl : l with
      | nil =>
        subst hl
        rw [put, at?_cons, at?_cons]
        cases hdirectory : e with
        | file => rfl
        | link => rfl
        | directory =>
          rw [← hdirectory, child?_setChild (by rw [hdirectory]; rfl)]
          split
          · next hk =>
            subst hk
            -- below the place there was nothing, and there is nothing now
            have hbelow : p ≠ [] := fun h => hp (by rw [h])
            rw [Option.bind_some, hnew p hbelow]
            cases hc : e.child? name with
            | none => rfl
            | some old =>
              have holdSight : old.sight ≠ .directory := hold old (by rw [at?_cons, hc]; rfl)
              rw [Option.bind_some, at?_eq_none holdSight hbelow]
          · rfl
      | cons next l' =>
        rw [← hl, put_cons _ _ _ _ (by rw [hl]; exact List.cons_ne_nil _ _), at?_cons, at?_cons,
          child?_changeChild]
        split
        · next hk =>
          subst hk
          cases hc : e.child? name with
          | none => rfl
          | some c =>
            rw [Option.map_some, Option.bind_some, Option.bind_some]
            refine ih ?_ fun h => hp (by rw [h])
            intro old hget
            exact hold old (by rw [at?_cons, hc, Option.bind_some, hget])
        · rfl

end Entry

end FileTriage
