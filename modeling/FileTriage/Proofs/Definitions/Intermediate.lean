/-
Going through an intermediate release.

Two releases taken in one after the other leave the same sets under all shipped keys as their merge
taken in at once: at one key, both prefer the highest version, and of equal ones the one that was
there first.  Only the names of custom sets can differ, since an intermediate release can ship a
name that a custom set has to make room for.  The custom sets themselves are the user's both times,
so they correspond one to one.
-/
import FileTriage.Proofs.Definitions.Shipped
import FileTriage.Proofs.Definitions.Upgrades
import Mathlib.Data.Set.Card

namespace FileTriage.Definitions

variable {first second user sets : Definitions} {k : String}

/-! ## Merging -/

/-- Of two sets that may be there, the one with the higher version, and of one version the former
one. -/
def newer : Option FilesSet → Option FilesSet → Option FilesSet
  | some s, some i => if i.version ≤ s.version then some s else some i
  | none, i => i
  | s, none => s

theorem newer_none (s : Option FilesSet) : newer s none = s := by
  cases s with
  | none => rfl
  | some s => rfl

/-- A set above all others is merged in last. -/
theorem mergeHighest_insert (sets : Definitions) {incoming : Definitions} {key : String}
    (s : FilesSet) (h : ∀ e ∈ incoming.entries, e.1 < key) :
    sets.mergeHighest (incoming.insert key s) =
      match (sets.mergeHighest incoming).get? key with
      | some existing =>
        if s.version ≤ existing.version then sets.mergeHighest incoming
        else (sets.mergeHighest incoming).insert key s
      | none => (sets.mergeHighest incoming).insert key s := by
  rw [mergeHighest, NameMap.entries_insert_of_lt s h, List.foldl_append]
  rfl

/-- What a merge has under a key. -/
theorem get?_mergeHighest (sets incoming : Definitions) (k : String) :
    (sets.mergeHighest incoming).get? k = newer (sets.get? k) (incoming.get? k) := by
  induction incoming using NameMap.ascending_induction with
  | empty => exact (newer_none _).symm
  | insert incoming key s hlt ih =>
    rw [mergeHighest_insert sets s hlt]
    by_cases hk : key = k
    · subst hk
      -- the key came in before at neither of the two places
      rw [NameMap.get?_eq_none_of_lt hlt, newer_none] at ih
      rw [NameMap.get?_insert_self, ih]
      cases hget : sets.get? key with
      | none =>
        rw [hget] at ih
        exact NameMap.get?_insert_self _ _ _
      | some existing =>
        rw [hget] at ih
        simp only [newer]
        split
        · exact ih
        · exact NameMap.get?_insert_self _ _ _
    · rw [NameMap.get?_insert_of_ne _ _ hk, ← ih]
      split
      · split
        · rfl
        · exact NameMap.get?_insert_of_ne _ _ hk
      · exact NameMap.get?_insert_of_ne _ _ hk

theorem get?_mergeHighest_eq_none (hfirst : first.get? k = none) (hsecond : second.get? k = none) :
    (first.mergeHighest second).get? k = none := by
  rw [get?_mergeHighest, hfirst, hsecond]
  rfl

/-! ## Preferring twice -/

theorem standard_preferred {s : FilesSet} (hs : s.standard = true) (u : Option FilesSet) :
    (preferred s u).standard = true := by
  cases u with
  | none => exact hs
  | some u =>
    rw [preferred]
    split
    · next h => exact h.1
    · exact hs

/-- A shipped set is preferred to a custom one, and to none. -/
theorem preferred_of_custom (s : FilesSet) {u : Option FilesSet}
    (h : ∀ d, u = some d → d.standard = false) : preferred s u = s := by
  cases u with
  | none => rfl
  | some d =>
    have hcustom := h d rfl
    rw [preferred, if_neg]
    rintro ⟨hstandard, -⟩
    rw [hcustom] at hstandard
    cases hstandard

/-- Preferring one shipped set and then another is preferring the newer of the two. -/
theorem preferred_preferred {s t : FilesSet} (hs : s.standard = true) (u : Option FilesSet) :
    preferred t (some (preferred s u)) =
      preferred (if t.version ≤ s.version then s else t) u := by
  by_cases hu : ∃ d, u = some d ∧ d.standard = true ∧ s.version ≤ d.version
  · -- the user's set is not older than the first one
    obtain ⟨d, rfl, hd, hsd⟩ := hu
    rw [show preferred s (some d) = d from if_pos ⟨hd, hsd⟩]
    by_cases hts : t.version ≤ s.version
    · have htd := UInt32.le_trans hts hsd
      rw [if_pos hts, preferred, preferred, if_pos ⟨hd, htd⟩, if_pos ⟨hd, hsd⟩]
    · rw [if_neg hts]
  · -- the first one takes the place of whatever the user has, and so does anything newer
    have hfirst : ∀ r : FilesSet, s.version ≤ r.version → preferred r u = r := by
      intro r hsr
      cases u with
      | none => rfl
      | some d =>
        rw [preferred, if_neg]
        rintro ⟨hd, hrd⟩
        exact hu ⟨d, rfl, hd, UInt32.le_trans hsr hrd⟩
    rw [hfirst s (UInt32.le_refl _)]
    by_cases hts : t.version ≤ s.version
    · rw [if_pos hts, hfirst s (UInt32.le_refl _), preferred, if_pos ⟨hs, hts⟩]
    · have hst : s.version ≤ t.version := UInt32.le_of_lt (UInt32.not_le.1 hts)
      rw [if_neg hts, hfirst t hst, preferred, if_neg]
      exact fun h => hts h.2

/-! ## Shipped keys and the user's keys -/

/-- What stands under a shipped key is flagged as a shipped set. -/
theorem get?_reconcile_of_shipped (hstandard : first.AllStandard) (user : Definitions)
    {s : FilesSet} (hs : first.get? k = some s) :
    (reconcile first user).sets.get? k = some (preferred s (user.get? k)) := by
  obtain ⟨place, hplace⟩ := placement_reconcile user hstandard
  exact hplace.at_shipped hs

/-- Two releases leave under a key of either what their merge leaves there. -/
theorem get?_reconcile_reconcile (hfirst : first.AllStandard) (hsecond : second.AllStandard)
    (user : Definitions) (hk : first.contains k = true ∨ second.contains k = true) :
    ∃ s, s.standard = true ∧
      (reconcile second (reconcile first user).sets).sets.get? k = some s ∧
      (reconcile (first.mergeHighest second) user).sets.get? k = some s := by
  have hmerge := get?_mergeHighest first second k
  have hdirect {m : FilesSet} (hm : (first.mergeHighest second).get? k = some m) :=
    get?_reconcile_of_shipped (hfirst.mergeHighest hsecond) user hm
  cases hs : first.get? k with
  | some s =>
    have honce := get?_reconcile_of_shipped hfirst user hs
    have hflag := hfirst.standard_eq hs
    cases ht : second.get? k with
    | none =>
      -- the second release passes over the key
      rw [hs, ht, newer_none] at hmerge
      exact ⟨_, standard_preferred hflag _, get?_reconcile_of_not_shipped second honce ht,
        hdirect hmerge⟩
    | some t =>
      have hnewer : (first.mergeHighest second).get? k =
          some (if t.version ≤ s.version then s else t) := by
        rw [hmerge, hs, ht, newer]
        split
        · rfl
        · rfl
      have htwice := get?_reconcile_of_shipped hsecond (reconcile first user).sets ht
      rw [honce, preferred_preferred hflag] at htwice
      refine ⟨_, standard_preferred ?_ _, htwice, hdirect hnewer⟩
      split
      · exact hflag
      · exact hsecond.standard_eq ht
  | none =>
    obtain ⟨t, ht⟩ : ∃ t, second.get? k = some t := by
      rw [NameMap.contains_eq_false_iff.2 hs] at hk
      exact NameMap.contains_eq_true_iff.1 (hk.resolve_left Bool.false_ne_true)
    rw [hs, ht] at hmerge
    have htwice := get?_reconcile_of_shipped hsecond (reconcile first user).sets ht
    refine ⟨_, standard_preferred (hsecond.standard_eq ht) _, ?_, hdirect hmerge⟩
    cases hu : user.get? k with
    | some u =>
      rw [htwice, get?_reconcile_of_not_shipped first hu hs]
    | none =>
      -- only a custom set can have come under the key
      rw [htwice, preferred_of_custom t fun d hd => standard_eq_false_of_new first hu hs hd]
      rfl

/-- A key of the user's that neither release ships keeps what it has. -/
theorem get?_of_not_shipped {u : FilesSet} (hfirst : first.get? k = none)
    (hsecond : second.get? k = none) (hu : user.get? k = some u) :
    (reconcile second (reconcile first user).sets).sets.get? k = some u ∧
      (reconcile (first.mergeHighest second) user).sets.get? k = some u := by
  have hmerge := get?_mergeHighest_eq_none hfirst hsecond
  exact ⟨get?_reconcile_of_not_shipped second (get?_reconcile_of_not_shipped first hu hfirst)
    hsecond, get?_reconcile_of_not_shipped _ hu hmerge⟩

/-! ## Custom sets -/

theorem ncard_customKeys (sets : Definitions) : sets.customKeys.ncard = sets.customCount := by
  set keys := (sets.entries.filter fun e => !e.2.standard).map (·.1) with hkeys
  have hnodup : keys.Nodup :=
    sets.nodup_keys.sublist (List.Sublist.map _ List.filter_sublist)
  have hset : sets.customKeys = (keys.toFinset : Set String) := by
    ext k
    simp only [customKeys, NameMap.get?_eq_some_iff, Set.mem_ofPred_eq, hkeys, List.coe_toFinset,
      List.mem_map, List.mem_filter, Bool.not_eq_true']
    constructor
    · rintro ⟨u, hu, hcustom⟩
      exact ⟨(k, u), ⟨hu, hcustom⟩, rfl⟩
    · rintro ⟨⟨k, u⟩, ⟨hu, hcustom⟩, rfl⟩
      exact ⟨u, hu, hcustom⟩
  rw [hset, Set.ncard_coe_finset, List.toFinset_card_of_nodup hnodup, hkeys, List.length_map,
    ← List.countP_eq_length_filter, customCount, NameMap.values, List.countP_map]
  rfl

theorem finite_customKeys (sets : Definitions) : sets.customKeys.Finite := by
  refine (List.finite_toSet sets.keys).subset ?_
  rintro k ⟨u, hu, -⟩
  exact NameMap.mem_keys_iff.2 ⟨u, hu⟩

/-- Where no custom set is lost and none is added, the places of those that were there are all
places of custom sets. -/
theorem CustomKept.exists_bijOn {before after : Definitions} (h : CustomKept before after) :
    ∃ place, Set.BijOn place before.customKeys after.customKeys ∧
      ∀ k u, before.get? k = some u → u.standard = false →
        ∃ hname, after.get? (place k) = some (u.withName (place k) hname) := by
  obtain ⟨place, hinj, hplaced⟩ := h.placed
  have hmaps : Set.MapsTo place before.customKeys after.customKeys := by
    rintro k ⟨u, hu, hcustom⟩
    obtain ⟨-, hname, hget⟩ := hplaced k u hu hcustom
    exact ⟨_, hget, (FilesSet.standard_withName u hname).trans hcustom⟩
  have himage : place '' before.customKeys = after.customKeys := by
    refine Set.eq_of_subset_of_ncard_le hmaps.image_subset ?_ after.finite_customKeys
    rw [hinj.ncard_image, ncard_customKeys, ncard_customKeys, h.count]
  refine ⟨place, ⟨hmaps, hinj, himage.ge⟩, fun k u hu hcustom => ?_⟩
  exact (hplaced k u hu hcustom).2

/-- Two outcomes that keep the custom sets of one user have the same ones up to their names. -/
theorem CustomKept.exists_correspondence {before a b : Definitions} (ha : CustomKept before a)
    (hb : CustomKept before b) :
    ∃ f, Set.BijOn f a.customKeys b.customKeys ∧
      ∀ k s, a.get? k = some s → s.standard = false →
        ∃ hname, b.get? (f k) = some (s.withName (f k) hname) := by
  obtain ⟨p, hp, hpget⟩ := ha.exists_bijOn
  obtain ⟨q, hq, hqget⟩ := hb.exists_bijOn
  -- back to where the set stood at the user's, and from there to its other place
  have hback := hp.invOn_invFunOn
  refine ⟨q ∘ Function.invFunOn p before.customKeys, hq.comp (hp.symm hback.symm), ?_⟩
  intro k s hs hcustom
  obtain ⟨j, ⟨u, hu, hucustom⟩, rfl⟩ := hp.surjOn ⟨s, hs, hcustom⟩
  obtain ⟨hname, hget⟩ := hpget j u hu hucustom
  obtain ⟨hname', hget'⟩ := hqget j u hu hucustom
  have hs' : s = u.withName (p j) hname := Option.some.inj (hs.symm.trans hget)
  rw [Function.comp_apply, hback.1 ⟨u, hu, hucustom⟩]
  exact ⟨hname', by rw [hget', hs']; rfl⟩

/-! ## The result -/

/-- Where a key is not shipped, what is flagged as a shipped set is what was there before. -/
theorem get?_reconcile_iff_of_standard {s : FilesSet} (hk : first.get? k = none)
    (hflag : s.standard = true) :
    (reconcile first user).sets.get? k = some s ↔ user.get? k = some s := by
  constructor
  · intro hs
    cases hu : user.get? k with
    | some u => exact hu ▸ (get?_reconcile_of_not_shipped first hu hk).symm.trans hs
    | none =>
      rw [standard_eq_false_of_new first hu hk hs] at hflag
      cases hflag
  · intro hu
    exact get?_reconcile_of_not_shipped first hu hk

/-- Two outcomes for a user of two releases that differ in no more than the names of custom
sets. -/
structure SameOutcome (first second user a b : Definitions) : Prop where
  /-- Under every shipped key stands the same shipped set. -/
  at_shipped : ∀ k, first.contains k = true ∨ second.contains k = true →
    ∃ s, s.standard = true ∧ a.get? k = some s ∧ b.get? k = some s
  /-- The user's other keys keep what they have. -/
  at_others : ∀ k u, first.get? k = none → second.get? k = none → user.get? k = some u →
    a.get? k = some u ∧ b.get? k = some u
  /-- The custom sets are the same ones up to their names. -/
  custom : ∃ f, Set.BijOn f a.customKeys b.customKeys ∧
    ∀ k s, a.get? k = some s → s.standard = false →
      ∃ hname, b.get? (f k) = some (s.withName (f k) hname)
  /-- The sets flagged as shipped are the same ones under the same keys. -/
  standard : ∀ k s, s.standard = true → (a.get? k = some s ↔ b.get? k = some s)

/-- An intermediate release makes no difference to what is shipped: reconciling with one release
and then with another has the outcome of reconciling with their merge. -/
theorem reconcile_intermediate (hfirst : first.AllStandard) (hsecond : second.AllStandard)
    (hnamed : first.Named) (huser : user.Named) :
    SameOutcome first second user (reconcile second (reconcile first user).sets).sets
      (reconcile (first.mergeHighest second) user).sets where
  at_shipped k hk := get?_reconcile_reconcile hfirst hsecond user hk
  at_others k u := get?_of_not_shipped
  custom := by
    have hstepwise := (customKept_reconcile hfirst huser).trans
      (customKept_reconcile hsecond (named_reconcile hnamed huser))
    have hdirect := customKept_reconcile (hfirst.mergeHighest hsecond) huser
    exact hstepwise.exists_correspondence hdirect
  standard k s hflag := by
    by_cases hk : first.contains k = true ∨ second.contains k = true
    · obtain ⟨t, -, hstepwise, hdirect⟩ := get?_reconcile_reconcile hfirst hsecond user hk
      rw [hstepwise, hdirect]
    · -- no release has the key, so what is flagged there is the user's
      obtain ⟨hk₁, hk₂⟩ := not_or.1 hk
      rw [Bool.not_eq_true, NameMap.contains_eq_false_iff] at hk₁ hk₂
      have hmerge := get?_mergeHighest_eq_none hk₁ hk₂
      rw [get?_reconcile_iff_of_standard hk₂ hflag, get?_reconcile_iff_of_standard hk₁ hflag,
        get?_reconcile_iff_of_standard hmerge hflag]

/-- A release that ships a set under a name that the next one makes room to. -/
def suffixRelease : Definitions := ofNames [("A (Custom)", true, 1)]

/-- Custom sets under the names of that release and of the one after it. -/
def suffixUser : Definitions := ofNames [("A", false, 7), ("A (Custom)", false, 3)]

theorem suffixRelease_intermediate :
    (suffixRelease.AllStandard ∧ earlierRelease.AllStandard ∧ suffixRelease.Named ∧
      suffixUser.Named) ∧
    SameOutcome suffixRelease earlierRelease suffixUser
      (reconcile earlierRelease (reconcile suffixRelease suffixUser).sets).sets
      (reconcile (suffixRelease.mergeHighest earlierRelease) suffixUser).sets :=
  ⟨by decide, reconcile_intermediate (by decide) (by decide) (by decide) (by decide)⟩

/-- The two custom sets end up under each other's names, depending on the way. -/
example :
    (reconcile earlierRelease (reconcile suffixRelease suffixUser).sets).sets.entries.map
        (fun e => (e.1, e.2.version)) =
      [("A", 1), ("A (Custom)", 1), ("A (Custom) (Custom)", 3),
        ("A (Custom) (Custom) (Custom)", 7)] ∧
    (reconcile (suffixRelease.mergeHighest earlierRelease) suffixUser).sets.entries.map
        (fun e => (e.1, e.2.version)) =
      [("A", 1), ("A (Custom)", 1), ("A (Custom) (Custom)", 7),
        ("A (Custom) (Custom) (Custom)", 3)] := by
  decide

end FileTriage.Definitions
