/-
What reconciling does to a user's sets.

Reconciling goes through the shipped sets in the order of their keys, so what it does is shown by
adding a shipped set above all others.  One such step has five cases, `Reconciled.Taken`, and
proofs go by these cases and not by the code.  `Placement` says where everything is at the end
when all shipped sets are flagged as such: under a shipped key stands the shipped set or a newer
one of the user's, and a custom set that had such a key has moved to a key of its own.
-/
import FileTriage.Proofs.Definitions.Basic
import FileTriage.Proofs.Definitions.FreeKey
import Mathlib.Logic.Function.Basic

namespace FileTriage.Definitions

theorem Report.isEmpty_iff {r : Report} : r.isEmpty = true ↔ r = {} := by
  obtain ⟨added, upgraded, renamed⟩ := r
  simp [Report.isEmpty, and_assoc]

/-! ## One step -/

/-- What taking one set in can do. -/
inductive Reconciled.Taken (r : Reconciled) (key : String) (incoming : FilesSet) :
    Reconciled → Prop where
  | added (hget : r.sets.get? key = none) :
      Taken r key incoming
        { sets := r.sets.insert key incoming
          report := { r.report with added := r.report.added ++ [key] } }
  | kept {existing : FilesSet} (hget : r.sets.get? key = some existing)
      (hflag : existing.standard = incoming.standard)
      (hversion : incoming.version ≤ existing.version) : Taken r key incoming r
  | upgraded {existing : FilesSet} (hget : r.sets.get? key = some existing)
      (hflag : existing.standard = incoming.standard)
      (hversion : existing.version < incoming.version) :
      Taken r key incoming
        { sets := r.sets.insert key incoming
          report := { r.report with
            upgraded := r.report.upgraded ++ [⟨key, existing.version, incoming.version⟩] } }
  | customMoved {existing : FilesSet} (hget : r.sets.get? key = some existing)
      (hexisting : existing.standard = false) (hincoming : incoming.standard = true) :
      Taken r key incoming (r.makeRoom key incoming existing)
  | incomingMoved {existing : FilesSet} (hget : r.sets.get? key = some existing)
      (hexisting : existing.standard = true) (hincoming : incoming.standard = false) :
      Taken r key incoming (r.makeRoom key existing incoming)

theorem Reconciled.taken_take (r : Reconciled) (key : String) (incoming : FilesSet) :
    r.Taken key incoming (r.take key incoming) := by
  unfold Reconciled.take
  split
  · next hget => exact .added hget
  · next existing hget =>
    split
    · next hflag =>
      -- one of the two sets is shipped and the other one custom
      cases hincoming : incoming.standard with
      | true =>
        rw [hincoming] at hflag
        exact .customMoved hget (by simpa using hflag) hincoming
      | false =>
        rw [hincoming] at hflag
        exact .incomingMoved hget (by simpa using hflag) hincoming
    · next hflag =>
      have hflag : existing.standard = incoming.standard := not_not.1 hflag
      split
      · next hversion => exact .kept hget hflag hversion
      · next hversion => exact .upgraded hget hflag (UInt32.not_le.1 hversion)

/-- What stands under a key when room has been made. -/
theorem Reconciled.get?_makeRoom (r : Reconciled) (key : String) (shipped other : FilesSet)
    (k : String) :
    (r.makeRoom key shipped other).sets.get? k =
      if key = k then some shipped
      else if freeKey r.sets key = k then
        some (other.withName (freeKey r.sets key) (allBlank_freeKey r.sets key))
      else r.sets.get? k := by
  rw [Reconciled.makeRoom, NameMap.get?_insert, NameMap.get?_insert]

/-- A step changes only the key of its set, and fills one key that was free. -/
theorem Reconciled.Taken.get?_of_ne {r r' : Reconciled} {key : String} {incoming : FilesSet}
    (h : r.Taken key incoming r') {k : String} {s : FilesSet} (hne : key ≠ k)
    (hget : r.sets.get? k = some s) : r'.sets.get? k = some s := by
  have hinsert : (r.sets.insert key incoming).get? k = some s := by
    rw [NameMap.get?_insert_of_ne _ _ hne, hget]
  have hmakeRoom : ∀ a b, (r.makeRoom key a b).sets.get? k = some s := by
    intro a b
    -- the key that is filled held nothing
    have hfree : freeKey r.sets key ≠ k := by
      rintro rfl
      rw [get?_freeKey] at hget
      cases hget
    rw [Reconciled.get?_makeRoom, if_neg hne, if_neg hfree, hget]
  cases h with
  | added => exact hinsert
  | kept => exact hget
  | upgraded => exact hinsert
  | customMoved => exact hmakeRoom _ _
  | incomingMoved => exact hmakeRoom _ _

/-- A step leaves a set under its key. -/
theorem Reconciled.Taken.exists_get?_key {r r' : Reconciled} {key : String} {incoming : FilesSet}
    (h : r.Taken key incoming r') : ∃ s, r'.sets.get? key = some s := by
  have hmakeRoom : ∀ a b, (r.makeRoom key a b).sets.get? key = some a := by
    intro a b
    rw [Reconciled.get?_makeRoom, if_pos rfl]
  cases h with
  | added => exact ⟨incoming, NameMap.get?_insert_self _ _ _⟩
  | kept hget => exact ⟨_, hget⟩
  | upgraded => exact ⟨incoming, NameMap.get?_insert_self _ _ _⟩
  | customMoved => exact ⟨_, hmakeRoom _ _⟩
  | incomingMoved => exact ⟨_, hmakeRoom _ _⟩

/-- A key that holds a set holds one after every step. -/
theorem Reconciled.Taken.exists_get? {r r' : Reconciled} {key : String} {incoming : FilesSet}
    (h : r.Taken key incoming r') {k : String} {s : FilesSet} (hget : r.sets.get? k = some s) :
    ∃ s', r'.sets.get? k = some s' := by
  by_cases hk : key = k
  · subst hk
    exact h.exists_get?_key
  · exact ⟨s, h.get?_of_ne hk hget⟩

/-- A set that is there after a step was there before, or is the incoming one, or is a custom one
that has moved there and taken the name. -/
theorem Reconciled.Taken.origin {r r' : Reconciled} {key : String} {incoming : FilesSet}
    (h : r.Taken key incoming r') {k : String} {t : FilesSet} (hget : r'.sets.get? k = some t) :
    r.sets.get? k = some t ∨ (key = k ∧ t = incoming) ∨
      (key ≠ k ∧ t.standard = false ∧ t.name = k) := by
  have hinsert : (r.sets.insert key incoming).get? k = some t →
      r.sets.get? k = some t ∨ (key = k ∧ t = incoming) ∨
        (key ≠ k ∧ t.standard = false ∧ t.name = k) := by
    intro h
    rw [NameMap.get?_insert] at h
    split at h
    · next heq =>
      cases h
      exact .inr (.inl ⟨heq, rfl⟩)
    · exact .inl h
  have hmakeRoom : ∀ a b, b.standard = false → (r.makeRoom key a b).sets.get? k = some t →
      r.sets.get? k = some t ∨ (key = k ∧ t = a) ∨
        (key ≠ k ∧ t.standard = false ∧ t.name = k) := by
    intro a b hb h
    rw [Reconciled.get?_makeRoom] at h
    split at h
    · next heq =>
      cases h
      exact .inr (.inl ⟨heq, rfl⟩)
    · next hne =>
      split at h
      · next heq =>
        cases h
        exact .inr (.inr ⟨hne, hb, heq⟩)
      · exact .inl h
  cases h with
  | added => exact hinsert hget
  | kept => exact .inl hget
  | upgraded => exact hinsert hget
  | customMoved _ hcustom => exact hmakeRoom _ _ hcustom hget
  | incomingMoved hexisting _ hcustom =>
    rcases hmakeRoom _ _ hcustom hget with hbefore | ⟨rfl, rfl⟩ | hmoved
    · exact .inl hbefore
    · -- the set under the key stays where it was
      exact .inl hexisting
    · exact .inr (.inr hmoved)

/-! ## All steps -/

@[simp] theorem reconcile_empty (user : Definitions) : reconcile .empty user = { sets := user } :=
  rfl

/-- A shipped set above all others is taken in last. -/
theorem reconcile_insert {shipped : Definitions} {key : String} (s : FilesSet)
    (h : ∀ e ∈ shipped.entries, e.1 < key) (user : Definitions) :
    reconcile (shipped.insert key s) user = (reconcile shipped user).take key s := by
  rw [reconcile, NameMap.entries_insert_of_lt s h, List.foldl_append]
  rfl

/-- A user who has no sets gets all shipped ones, and nothing else happens. -/
theorem reconcile_into_empty (shipped : Definitions) :
    reconcile shipped .empty = { sets := shipped, report := { added := shipped.keys } } := by
  induction shipped using NameMap.ascending_induction with
  | empty => rfl
  | insert shipped key s hlt ih =>
    have hkeys : NameMap.keys (shipped.insert key s) = shipped.keys ++ [key] := by
      rw [NameMap.keys, NameMap.entries_insert_of_lt s hlt, List.map_append]
      rfl
    rw [reconcile_insert s hlt, ih, hkeys, Reconciled.take, NameMap.get?_eq_none_of_lt hlt]

/-- What holds of the user's sets and is kept by every step holds of the result. -/
theorem reconcile_induction {motive : Definitions → Reconciled → Prop} {user : Definitions}
    (start : motive .empty { sets := user })
    (step : ∀ (shipped : Definitions) (key : String) (s : FilesSet) (r' : Reconciled),
      shipped.get? key = none → motive shipped (reconcile shipped user) →
      (reconcile shipped user).Taken key s r' → motive (shipped.insert key s) r')
    (shipped : Definitions) : motive shipped (reconcile shipped user) := by
  induction shipped using NameMap.ascending_induction with
  | empty => exact start
  | insert shipped key s hlt ih =>
    rw [reconcile_insert s hlt]
    exact step shipped key s _ (NameMap.get?_eq_none_of_lt hlt) ih (Reconciled.taken_take _ _ _)

/-- A key that holds a set of the user's holds a set in the end. -/
theorem exists_get?_reconcile (shipped : Definitions) {user : Definitions} {k : String}
    {u : FilesSet} (hget : user.get? k = some u) :
    ∃ d, (reconcile shipped user).sets.get? k = some d := by
  refine reconcile_induction (motive := fun _ r => ∃ d, r.sets.get? k = some d) ⟨u, hget⟩ ?_ shipped
  rintro shipped key s r' - ⟨d, hd⟩ htaken
  exact htaken.exists_get? hd

/-- A key that is free in the end is none of the user's. -/
theorem user_get?_eq_none {shipped user : Definitions} {k : String}
    (hfree : (reconcile shipped user).sets.get? k = none) : user.get? k = none := by
  by_contra hsome
  obtain ⟨u, hu⟩ := Option.ne_none_iff_exists'.1 hsome
  obtain ⟨d, hd⟩ := exists_get?_reconcile shipped hu
  rw [hfree] at hd
  cases hd

/-- A set of the user's under a key that is not shipped stays as it is. -/
theorem get?_reconcile_of_not_shipped (shipped : Definitions) {user : Definitions} {k : String}
    {u : FilesSet} (hget : user.get? k = some u) (hshipped : shipped.get? k = none) :
    (reconcile shipped user).sets.get? k = some u := by
  revert hshipped
  refine reconcile_induction
    (motive := fun shipped r => shipped.get? k = none → r.sets.get? k = some u)
    (fun _ => hget) ?_ shipped
  intro shipped key s r' _ ih htaken hshipped
  rw [NameMap.get?_insert] at hshipped
  split at hshipped
  · cases hshipped
  · next hne => exact htaken.get?_of_ne hne (ih hshipped)

/-- Sets that stand under their names do so in the end. -/
theorem named_reconcile {shipped user : Definitions} (hshipped : shipped.Named)
    (huser : user.Named) : (reconcile shipped user).sets.Named := by
  revert hshipped
  refine reconcile_induction (motive := fun shipped r => shipped.Named → r.sets.Named)
    (fun _ => huser) ?_ shipped
  intro shipped key s r' hfresh ih htaken hshipped
  obtain ⟨hs, hold⟩ := Named.of_insert hfresh hshipped
  rw [named_iff]
  intro k t hget
  rcases htaken.origin hget with hbefore | ⟨rfl, rfl⟩ | ⟨-, -, hname⟩
  · exact (ih hold).name_eq hbefore
  · exact hs
  · exact hname

end FileTriage.Definitions
