/-
Where files sets come from.

A set is built, read, edited, or comes out of bringing definitions up to date, any number of times
and in any order.  Beside the set goes a record of its parts to which the same is done with no check
at all.  The constructor of sets accepts the record however the set has come about, and makes the
set of it: each edit by itself keeps this, so no sequence of them leads out of what can be saved and
loaded again.
-/
import FileTriage.Proofs.Definitions.Importing
import FileTriage.Proofs.Definitions.Reconcile
import FileTriage.Proofs.Rules.Edits

namespace FileTriage.Definitions

open Store (sizeSets named_sizeSets sizesFit_sizeSets_iff)

/-! ## Bringing definitions up to date -/

/-- A set is among the shipped ones or the user's. -/
def Given (shipped user : Definitions) (s : FilesSet) : Prop :=
  ∃ k, shipped.get? k = some s ∨ user.get? k = some s

/-- A set under a key is a given one, or a given one that has been renamed to the key. -/
def Comes (shipped user : Definitions) (k : String) (t : FilesSet) : Prop :=
  ∃ s, Given shipped user s ∧ (t = s ∨ s.renamed k = .ok t)

section Comes

variable {shipped user : Definitions} {key k : String} {s t : FilesSet}

theorem Given.comes (h : Given shipped user t) : Comes shipped user k t :=
  ⟨t, h, .inl rfl⟩

/-- The name that makes room is not blank, so the set could have been renamed to it. -/
theorem Comes.withName (h : Comes shipped user k t) {name : String}
    (hname : Text.allBlank name = false) : Comes shipped user name (t.withName name hname) := by
  obtain ⟨s, hs, rfl | hrenamed⟩ := h
  · exact ⟨_, hs, .inr (dif_pos hname)⟩
  · refine ⟨s, hs, .inr ?_⟩
    rw [FilesSet.renamed] at hrenamed ⊢
    split at hrenamed
    · cases hrenamed
      exact dif_pos hname
    · cases hrenamed

theorem Comes.insert (hfresh : shipped.get? key = none) (h : Comes shipped user k t) :
    Comes (shipped.insert key s) user k t := by
  obtain ⟨u, ⟨k', hu⟩, hrenamed⟩ := h
  exact ⟨u, ⟨k', hu.imp_left (NameMap.get?_insert_of_fresh s hfresh)⟩, hrenamed⟩

/-- Every set of the result is a given one, or a given one under another name. -/
theorem comes_of_reconcile (h : (reconcile shipped user).sets.get? k = some t) :
    Comes shipped user k t := by
  revert h
  refine reconcile_induction
    (motive := fun shipped r => ∀ k t, r.sets.get? k = some t → Comes shipped user k t)
    (fun k t h => Given.comes ⟨k, .inr h⟩) ?_ shipped k t
  intro shipped key s r' hfresh ih htaken k t hget
  have hbefore : ∀ k t, (reconcile shipped user).sets.get? k = some t →
      Comes (shipped.insert key s) user k t := fun k t h => (ih k t h).insert hfresh
  have hincoming : Comes (shipped.insert key s) user key s :=
    Given.comes ⟨key, .inl (NameMap.get?_insert_self _ _ _)⟩
  have hinsert (h : ((reconcile shipped user).sets.insert key s).get? k = some t) :
      Comes (shipped.insert key s) user k t := by
    rw [NameMap.get?_insert] at h
    split at h
    · next heq =>
      cases h
      exact heq ▸ hincoming
    · exact hbefore k t h
  -- one of two sets under a key stays there, and the other one takes the free name
  have hmakeRoom {a b : FilesSet} (ha : Comes (shipped.insert key s) user key a)
      (hb : Comes (shipped.insert key s) user key b)
      (h : ((reconcile shipped user).makeRoom key a b).sets.get? k = some t) :
      Comes (shipped.insert key s) user k t := by
    rw [Reconciled.get?_makeRoom] at h
    split at h
    · next heq =>
      cases h
      exact heq ▸ ha
    split at h
    · next heq =>
      cases h
      exact heq ▸ hb.withName _
    · exact hbefore k t h
  cases htaken with
  | added => exact hinsert hget
  | kept => exact hbefore k t hget
  | upgraded => exact hinsert hget
  | customMoved hold _ _ => exact hmakeRoom hincoming (hbefore _ _ hold) hget
  | incomingMoved hold _ _ => exact hmakeRoom (hbefore _ _ hold) hincoming hget

end Comes

/-! ## Every way to come by a set -/

/-- The ways to come by a set, and the parts that it has by them. -/
inductive Obtained : FilesSet.Draft → FilesSet → Prop
  /-- A set is built from its parts. -/
  | built {d : FilesSet.Draft} {s : FilesSet} : FilesSet.build d = .ok s → Obtained d s
  /-- A set is among those that have been read, in either format. -/
  | read {bytes : List UInt8} {sets : Definitions} {key : String} {s : FilesSet} :
    ofToml bytes = .ok sets ∨ ofJson bytes = .ok sets → sets.get? key = some s →
      Obtained (s.draft s.rules.values) s
  /-- A set is edited, and so are its parts. -/
  | edited {d : FilesSet.Draft} {s t : FilesSet} {e : FilesSet.Edit} :
    Obtained d s → s.edited e = .ok t → Obtained (d.edited e) t
  /-- A set is among those that have been brought up to date. -/
  | reconciled {shipped user : Definitions} {parts : FilesSet → FilesSet.Draft} {key : String}
      {t : FilesSet} :
    (∀ k s, shipped.get? k = some s ∨ user.get? k = some s → Obtained (parts s) s) →
      (reconcile shipped user).sets.get? key = some t → Obtained (t.draft t.rules.values) t

theorem Obtained.build_eq {d : FilesSet.Draft} {s : FilesSet} (h : Obtained d s) :
    FilesSet.build d = .ok s := by
  induction h with
  | built h => exact h
  | read _ _ => exact FilesSet.build_self _
  | edited _ hedit ih => exact (FilesSet.build_edited ih _).trans hedit
  | reconciled _ _ _ => exact FilesSet.build_self _

/-- However a set has come about, the constructor makes it of its parts, it is as it has to be to be
saved, and it is read as it was written.  Bringing definitions up to date does nothing to a set but
give it a name that it could have been given anyway.  What is read stands under its names, in both
formats. -/
theorem obtained_sound :
    (∀ d s, Obtained d s → FilesSet.build d = .ok s ∧ s.Sound) ∧
    (∀ shipped user k t, (reconcile shipped user).sets.get? k = some t → Comes shipped user k t) ∧
    ∀ bytes sets, ofToml bytes = .ok sets ∨ ofJson bytes = .ok sets → sets.Named := by
  refine ⟨?_, ?_, ?_⟩
  · intro d s h
    exact ⟨h.build_eq, s.sound⟩
  · intro shipped user k t h
    exact comes_of_reconcile h
  · intro bytes sets h
    rcases h with htoml | hjson
    · exact (ofToml_eq_ok htoml).1
    · obtain ⟨legacy, -, hnames⟩ := Value.bind_eq_ok_iff.1 hjson
      exact (byName_eq_ok_iff.1 hnames).1

/-- A set that has been read makes room for another one that has been read and then shipped. -/
theorem displaced_size_set_is_sound :
    ∃ bytes t, ofToml bytes = .ok (sizeSets 7) ∧
      (reconcile (asStandard (sizeSets 5)) (sizeSets 7)).sets.get? "a (Custom)" = some t ∧
      (FilesSet.build (t.draft t.rules.values) = .ok t ∧ t.Sound) ∧
      Comes (asStandard (sizeSets 5)) (sizeSets 7) "a (Custom)" t ∧ (sizeSets 7).Named := by
  have hread : ∀ size : UInt64, size.toNat ≤ Nat.pow 2 63 - 1 →
      ∃ bytes, ofToml bytes = .ok (sizeSets size) := by
    intro size hsize
    obtain ⟨text, htext⟩ := exists_toToml (named_sizeSets size) ((sizesFit_sizeSets_iff size).2 hsize)
    exact ⟨_, ofToml_encode_of_toToml htext⟩
  obtain ⟨shipped, hshipped⟩ := hread 5 (by decide)
  obtain ⟨bytes, hbytes⟩ := hread 7 (by decide)
  obtain ⟨hsound, hcomes, hnamed⟩ := obtained_sound
  have hobtained : ∀ k s, (asStandard (sizeSets 5)).get? k = some s ∨ (sizeSets 7).get? k = some s →
      Obtained (s.draft s.rules.values) s := by
    rintro k s (h | h)
    · obtain ⟨⟨k, t⟩, ht, heq⟩ := List.mem_map.1 (NameMap.get?_eq_some_iff.1 h)
      cases heq
      have hget : (sizeSets 5).get? k = some t := NameMap.get?_eq_some_iff.2 ht
      exact .edited (.read (.inl hshipped) hget) (show t.edited .asStandard = _ from rfl)
    · exact .read (.inl hbytes) h
  have hmoved : ∃ t,
      (reconcile (asStandard (sizeSets 5)) (sizeSets 7)).sets.get? "a (Custom)" = some t := ⟨_, rfl⟩
  obtain ⟨t, ht⟩ := hmoved
  exact ⟨bytes, t, hbytes, ht, hsound _ _ (.reconciled hobtained ht), hcomes _ _ _ _ ht,
    hnamed bytes _ (.inl hbytes)⟩

end FileTriage.Definitions
