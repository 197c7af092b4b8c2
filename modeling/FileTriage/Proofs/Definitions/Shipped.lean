/-
The shipped sets are flagged as such.

They are built with the flag, and the sets of a directory get it when they are read, so a program
that reconciles with them meets no clash and finds the second time that nothing is left to do.
-/
import FileTriage.Definitions.Manager
import FileTriage.Proofs.Definitions.Idempotence
import FileTriage.Proofs.Rules.Building

namespace FileTriage

namespace Definitions

variable {sets incoming : Definitions} {key : String} {s : FilesSet}

/-! ## Collections of flagged sets -/

theorem AllStandard.insert (h : sets.AllStandard) (hs : s.standard = true) :
    AllStandard (sets.insert key s) := by
  rw [allStandard_iff] at h ⊢
  intro k t hget
  rw [NameMap.get?_insert] at hget
  split at hget
  · cases hget
    exact hs
  · exact h k t hget

theorem allStandard_empty : AllStandard .empty := fun _ he => absurd he List.not_mem_nil

theorem AllStandard.mergeHighest (h : sets.AllStandard) (hincoming : incoming.AllStandard) :
    (sets.mergeHighest incoming).AllStandard := by
  refine List.foldlRecOn incoming.entries _ h ?_
  rintro m hm ⟨key, s⟩ hs
  have hstandard : s.standard = true := hincoming _ hs
  simp only
  split
  · split
    · exact hm
    · exact hm.insert hstandard
  · exact hm.insert hstandard

theorem allStandard_asStandard (sets : Definitions) : sets.asStandard.AllStandard := by
  intro e he
  obtain ⟨e', -, rfl⟩ := List.mem_map.1 he
  rfl

/-- Sets that are flagged are not changed by being flagged. -/
theorem AllStandard.asStandard_eq (h : sets.AllStandard) : sets.asStandard = sets := by
  refine NameMap.ext ((List.map_congr_left ?_).trans (List.map_id _))
  rintro ⟨key, s⟩ he
  have hs : s.standard = true := h _ he
  rw [FilesSet.asStandard, ← hs]
  rfl

theorem allStandard_ofDirectory (d : Disk) (path : String) : (ofDirectory d path).AllStandard := by
  rw [ofDirectory]
  split
  · refine List.foldlRecOn _ _ allStandard_empty ?_
    intro m hm e _
    split
    · split
      · exact hm.mergeHighest (allStandard_asStandard _)
      · exact hm
    · exact hm
  · exact allStandard_empty

/-- Sets that have been reconciled with sets flagged as shipped are up to date. -/
theorem AllStandard.reconcile_reconcile (h : incoming.AllStandard) (user : Definitions) :
    reconcile incoming (reconcile incoming user).sets =
      { sets := (reconcile incoming user).sets } := by
  refine reconcile_reconcile_of_not_clash ?_
  rintro ⟨k, s, u, hs, -, hcustom, -⟩
  rw [h.standard_eq hs] at hcustom
  cases hcustom

/-! ## Building the shipped sets -/

/-- What holds of every set that a last step gives holds of the set that is built in steps. -/
theorem holds_of_bind {α : Type} {P : FilesSet → Prop} {x : Except ConstructionError α}
    {f : α → Except ConstructionError FilesSet}
    (h : ∀ a s, f a = .ok s → P s) (s : FilesSet) (hs : x >>= f = .ok s) : P s := by
  cases x with
  | error e => cases hs
  | ok a => exact h a s hs

/-- What holds of every set that is built as a shipped one holds of the shipped sets. -/
theorem forall_shippedSets {P : FilesSet → Prop}
    (h : ∀ name description rules s, shippedSet name description rules = .ok s → P s)
    {s : FilesSet} (hget : shippedSets.get? key = some s) : P s := by
  have hcloud : ∀ s, cloudStorage = .ok s → P s :=
    holds_of_bind fun _ => holds_of_bind fun _ => holds_of_bind fun _ => holds_of_bind fun _ =>
      h _ _ _
  have hencryption : ∀ s, encryptionPrograms = .ok s → P s :=
    holds_of_bind fun _ => holds_of_bind fun _ => h _ _ _
  have himages : ∀ s, diskImages = .ok s → P s :=
    holds_of_bind fun _ => holds_of_bind fun _ => holds_of_bind fun _ => h _ _ _
  obtain ⟨built, hbuilt, hsome⟩ := List.mem_filterMap.1 (NameMap.mem_of_get?_ofList hget)
  cases hresult : built with
  | error e =>
    rw [hresult] at hsome
    cases hsome
  | ok s =>
    rw [hresult] at hsome
    cases hsome
    simp only [List.mem_cons, List.not_mem_nil, or_false] at hbuilt
    rcases hbuilt with h | h | h
    · exact hcloud s (h.symm.trans hresult)
    · exact hencryption s (h.symm.trans hresult)
    · exact himages s (h.symm.trans hresult)

theorem allStandard_shippedSets : shippedSets.AllStandard := by
  refine allStandard_iff.2 fun k s => forall_shippedSets (P := fun s => s.standard = true) ?_
  intro name description rules s hs
  -- a set has the flag of the draft that it is built from
  have hdraft := (FilesSet.build_eq_ok_iff.1 hs).1
  exact (congrArg FilesSet.Draft.standard hdraft).symm

end Definitions

theorem Manager.allStandard_standardSets (m : Manager) (d : Disk) :
    (m.standardSets d).AllStandard := by
  rw [Manager.standardSets]
  split
  · exact Definitions.allStandard_shippedSets.mergeHighest (Definitions.allStandard_ofDirectory d _)
  · exact Definitions.allStandard_shippedSets

end FileTriage
