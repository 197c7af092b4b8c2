/-
Definitions under their names.

Sets stand under keys that are meant to be their names.  Where they are, building the collection
anew from its sets gives it back.
-/
import FileTriage.Definitions.Basic
import FileTriage.Proofs.NameMap

namespace FileTriage

/-! ## Renaming -/

namespace FilesSet

/-- Where there are no rules, they stand under their ids. -/
theorem keyed_empty : ∀ e ∈ (NameMap.empty : NameMap Rule).entries, e.2.id = e.1 :=
  fun _ he => absurd he List.not_mem_nil

/-- A set that has had its name all along is not changed by taking it. -/
theorem withName_of_name_eq {s : FilesSet} {name : String} (heq : s.name = name) :
    ∃ h, s.withName name h = s := by
  subst heq
  exact ⟨s.name_not_blank, rfl⟩

@[simp] theorem name_withName (s : FilesSet) {name : String} (h : Text.allBlank name = false) :
    (s.withName name h).name = name := rfl

@[simp] theorem standard_withName (s : FilesSet) {name : String}
    (h : Text.allBlank name = false) : (s.withName name h).standard = s.standard := rfl

end FilesSet

namespace Definitions

/-- Sets without rules under their names, which are not blank. -/
def ofNames (sets : List (String × Bool × UInt32)) : Definitions :=
  .ofList <| sets.filterMap fun (name, standard, version) =>
    if h : Text.allBlank name = false then
      some (name, { name, standard, version, name_not_blank := h
                    keyed := fun _ he => absurd he List.not_mem_nil })
    else none

/-! ## Sets under their names -/

/-- Every set stands under its own name. -/
def Named (sets : Definitions) : Prop := ∀ e ∈ sets.entries, e.2.name = e.1

instance : DecidablePred Named := fun sets =>
  inferInstanceAs (Decidable (∀ e ∈ sets.entries, e.2.name = e.1))

/-- Every set is a shipped one. -/
def AllStandard (sets : Definitions) : Prop := ∀ e ∈ sets.entries, e.2.standard = true

instance : DecidablePred AllStandard := fun sets =>
  inferInstanceAs (Decidable (∀ e ∈ sets.entries, e.2.standard = true))

theorem Named.name_eq {sets : Definitions} (h : sets.Named) {k : String} {s : FilesSet}
    (hget : sets.get? k = some s) : s.name = k :=
  h (k, s) (NameMap.get?_eq_some_iff.1 hget)

theorem named_iff {sets : Definitions} :
    sets.Named ↔ ∀ k s, sets.get? k = some s → s.name = k := by
  constructor
  · intro h k s hget
    exact h.name_eq hget
  · rintro h ⟨k, s⟩ hmem
    exact h k s (NameMap.get?_eq_some_iff.2 hmem)

theorem AllStandard.standard_eq {sets : Definitions} (h : sets.AllStandard) {k : String}
    {s : FilesSet} (hget : sets.get? k = some s) : s.standard = true :=
  h (k, s) (NameMap.get?_eq_some_iff.1 hget)

theorem allStandard_iff {sets : Definitions} :
    sets.AllStandard ↔ ∀ k s, sets.get? k = some s → s.standard = true := by
  constructor
  · intro h k s hget
    exact h.standard_eq hget
  · rintro h ⟨k, s⟩ hmem
    exact h k s (NameMap.get?_eq_some_iff.2 hmem)

section Insert

variable {sets : Definitions} {key : String} {s : FilesSet}

/-- Before a set came in under a new key, the sets stood under their names if they do so now. -/
theorem Named.of_insert (hfresh : sets.get? key = none) (h : Named (sets.insert key s)) :
    s.name = key ∧ sets.Named := by
  refine ⟨h.name_eq (NameMap.get?_insert_self sets key s), named_iff.2 ?_⟩
  intro k t hget
  exact h.name_eq (NameMap.get?_insert_of_fresh s hfresh hget)

/-- Before a set came in under a new key, all sets were shipped ones if they are so now. -/
theorem AllStandard.of_insert (hfresh : sets.get? key = none)
    (h : AllStandard (sets.insert key s)) :
    s.standard = true ∧ sets.AllStandard := by
  refine ⟨h.standard_eq (NameMap.get?_insert_self sets key s), allStandard_iff.2 ?_⟩
  intro k t hget
  exact h.standard_eq (NameMap.get?_insert_of_fresh s hfresh hget)

end Insert

theorem misplaced?_eq_none_iff {sets : Definitions} : sets.misplaced? = none ↔ sets.Named := by
  rw [misplaced?, List.find?_eq_none, Named]
  refine forall₂_congr fun e _ => ?_
  simp only [ne_eq, decide_not, Bool.not_eq_true', decide_eq_false_iff_not, not_not]
  exact eq_comm

/-! ## Putting sets together -/

/-- Sets are put together one after the other. -/
theorem ofSets_concat (sets : List FilesSet) (s : FilesSet) :
    ofSets (sets ++ [s]) = (do
      let m ← ofSets sets
      if m.contains s.name then .error s.name else .ok (m.insert s.name s)) := by
  rw [ofSets, List.foldlM_append]
  simp only [List.foldlM_cons, List.foldlM_nil, bind_pure]
  rfl

/-- Sets with distinct names are put together to the map that has them under their names. -/
theorem ofSets_of_nodup {sets : List FilesSet} (h : (sets.map FilesSet.name).Nodup) :
    ofSets sets = .ok (.ofList (sets.map fun s => (s.name, s))) := by
  induction sets using List.reverseRecOn with
  | nil => rfl
  | append_singleton sets s ih =>
    rw [List.map_append, List.nodup_append] at h
    obtain ⟨hsets, -, hfresh⟩ := h
    -- no set before this one has its name, so it finds its name free
    have hcontains : NameMap.contains (.ofList (sets.map fun s => (s.name, s))) s.name = false := by
      rw [NameMap.contains_eq_false_iff]
      by_contra hsome
      obtain ⟨t, ht⟩ := Option.ne_none_iff_exists'.1 hsome
      obtain ⟨t, hmem, heq⟩ := List.mem_map.1 (NameMap.mem_of_get?_ofList ht)
      exact hfresh t.name (List.mem_map_of_mem hmem) s.name (by simp) (Prod.mk.inj heq).1
    rw [ofSets_concat, ih hsets, List.map_append, List.map_singleton, NameMap.ofList_concat]
    show (if NameMap.contains _ s.name then _ else _) = _
    rw [hcontains, if_neg Bool.false_ne_true]

/-- Sets of which two have one name are refused, with the name of a set that one before it has. -/
theorem exists_ofSets_error {sets : List FilesSet} (h : ¬ (sets.map FilesSet.name).Nodup) :
    ∃ before s after, sets = before ++ s :: after ∧ s.name ∈ before.map FilesSet.name ∧
      ofSets sets = .error s.name := by
  induction sets using List.reverseRecOn with
  | nil => exact absurd List.nodup_nil h
  | append_singleton sets s ih =>
    by_cases hsets : (sets.map FilesSet.name).Nodup
    · -- the last set is the first one that does not find its name free
      have hmem : s.name ∈ sets.map FilesSet.name := by
        by_contra hfresh
        refine h ?_
        rw [List.map_append, List.map_singleton, ← List.concat_eq_append, List.nodup_concat]
        exact ⟨hfresh, hsets⟩
      have hcontains : NameMap.contains (.ofList (sets.map fun s => (s.name, s))) s.name = true := by
        obtain ⟨t, ht, hname⟩ := List.mem_map.1 hmem
        rw [NameMap.contains_eq_true_iff]
        refine ⟨t, (NameMap.get?_ofList_iff ?_).2 (List.mem_map.2 ⟨t, ht, by rw [hname]⟩)⟩
        rw [List.map_map]
        exact hsets
      refine ⟨sets, s, [], rfl, hmem, ?_⟩
      rw [ofSets_concat, ofSets_of_nodup hsets]
      show (if NameMap.contains _ s.name then _ else _) = _
      rw [hcontains, if_pos rfl]
    · obtain ⟨before, t, after, rfl, hmem, herror⟩ := ih hsets
      refine ⟨before, t, after ++ [s], by simp, hmem, ?_⟩
      rw [ofSets_concat, herror]
      rfl

/-- Sets are put together to the collection in which they stand under their names, in whichever
order they come, and to no other. -/
theorem ofSets_eq_ok_iff {sets : List FilesSet} {m : Definitions} :
    ofSets sets = .ok m ↔ m.Named ∧ sets.Perm m.values := by
  constructor
  · intro h
    by_cases hnodup : (sets.map FilesSet.name).Nodup
    · rw [ofSets_of_nodup hnodup] at h
      cases h
      exact NameMap.perm_values_iff.2 ⟨hnodup, rfl⟩
    · obtain ⟨before, s, after, -, -, herror⟩ := exists_ofSets_error hnodup
      rw [herror] at h
      cases h
  · rintro ⟨hnamed, hperm⟩
    obtain ⟨hnodup, hm⟩ := NameMap.perm_values_iff.1 ⟨hnamed, hperm⟩
    rw [ofSets_of_nodup hnodup, ← hm]

/-- Sets that stand under their names are put together to the same collection again. -/
theorem ofSets_values {sets : Definitions} (h : sets.Named) : ofSets sets.values = .ok sets :=
  ofSets_eq_ok_iff.2 ⟨h, .refl _⟩

end Definitions

end FileTriage
