/-
What survives any number of upgrades.

An upgrade reconciles a user's sets with the shipped sets of a release.  `CustomKept` relates the
sets before and after so that no custom set is lost, and `StandardKept` so that no shipped set is
lost or goes back to an older version.  Both hold of one upgrade and are transitive, so they hold
of every sequence of upgrades.
-/
import FileTriage.Proofs.Definitions.Placement

namespace FileTriage.Definitions

/-- A user's sets after upgrades to releases, one after the other. -/
def upgraded (user : Definitions) (releases : List Definitions) : Definitions :=
  releases.foldl (fun sets shipped => (reconcile shipped sets).sets) user

@[simp] theorem upgraded_nil (user : Definitions) : upgraded user [] = user := rfl

theorem upgraded_cons (user shipped : Definitions) (releases : List Definitions) :
    upgraded user (shipped :: releases) = upgraded (reconcile shipped user).sets releases := rfl

theorem upgraded_append (user : Definitions) (earlier later : List Definitions) :
    upgraded user (earlier ++ later) = upgraded (upgraded user earlier) later :=
  List.foldl_append

/-- The keys of custom sets. -/
def customKeys (sets : Definitions) : Set String :=
  {k | ∃ u, sets.get? k = some u ∧ u.standard = false}

/-- How many custom sets there are. -/
def customCount (sets : Definitions) : Nat := sets.values.countP fun s => !s.standard

/-- No custom set of `before` is lost in `after`. -/
structure CustomKept (before after : Definitions) : Prop where
  /-- Each is found at a key of its own, which is its old key with the suffix so many times, and
  nothing but its name has changed. -/
  placed : ∃ place : String → String, Set.InjOn place before.customKeys ∧
    ∀ k u, before.get? k = some u → u.standard = false →
      (∃ n, place k = customKey k n) ∧ ∃ h, after.get? (place k) = some (u.withName (place k) h)
  /-- There are as many as before. -/
  count : after.customCount = before.customCount

/-- A key that holds a shipped set in `before` holds one in `after` that is not older. -/
def StandardKept (before after : Definitions) : Prop :=
  ∀ k u, before.get? k = some u → u.standard = true →
    ∃ v, after.get? k = some v ∧ v.standard = true ∧ u.version ≤ v.version

/-! ## No upgrade, and two -/

theorem CustomKept.refl {sets : Definitions} (h : sets.Named) : CustomKept sets sets := by
  refine ⟨⟨id, Set.injOn_id _, ?_⟩, rfl⟩
  intro k u hget _
  obtain ⟨hname, heq⟩ := FilesSet.withName_of_name_eq (h.name_eq hget)
  exact ⟨⟨0, rfl⟩, hname, hget.trans (congrArg some heq.symm)⟩

theorem CustomKept.trans {a b c : Definitions} (hab : CustomKept a b) (hbc : CustomKept b c) :
    CustomKept a c := by
  obtain ⟨f, hf, hfget⟩ := hab.placed
  obtain ⟨g, hg, hgget⟩ := hbc.placed
  -- a custom set is one still where it has moved to, so the second map takes it on
  have hmaps : Set.MapsTo f a.customKeys b.customKeys := by
    rintro k ⟨u, hu, hcustom⟩
    obtain ⟨-, hname, hget⟩ := hfget k u hu hcustom
    exact ⟨_, hget, (FilesSet.standard_withName u hname).trans hcustom⟩
  refine ⟨⟨g ∘ f, hg.comp hf hmaps, ?_⟩, hbc.count.trans hab.count⟩
  intro k u hu hcustom
  obtain ⟨⟨m, hm⟩, hname, hget⟩ := hfget k u hu hcustom
  obtain ⟨⟨n, hn⟩, hname', hget'⟩ :=
    hgget (f k) _ hget ((FilesSet.standard_withName u hname).trans hcustom)
  refine ⟨⟨m + n, ?_⟩, hname', hget'⟩
  rw [Function.comp_apply, hn, hm, customKey_customKey]

theorem StandardKept.refl (sets : Definitions) : StandardKept sets sets :=
  fun _ u hget hflag => ⟨u, hget, hflag, UInt32.le_refl _⟩

theorem StandardKept.trans {a b c : Definitions} (hab : StandardKept a b)
    (hbc : StandardKept b c) : StandardKept a c := by
  intro k u hu hflag
  obtain ⟨v, hv, hvflag, huv⟩ := hab k u hu hflag
  obtain ⟨w, hw, hwflag, hvw⟩ := hbc k v hv hvflag
  exact ⟨w, hw, hwflag, UInt32.le_trans huv hvw⟩

/-! ## One upgrade -/

theorem customCount_insert_of_none {sets : Definitions} {key : String} (s : FilesSet)
    (hget : sets.get? key = none) :
    customCount (sets.insert key s) = customCount sets + [s].countP (fun s => !s.standard) := by
  have hcount := NameMap.countP_values_insert (fun s => !s.standard) sets key s
  rw [hget, Option.toList_none, List.countP_nil] at hcount
  exact hcount

theorem customCount_insert_of_some {sets : Definitions} {key : String} (s : FilesSet)
    {old : FilesSet} (hget : sets.get? key = some old) :
    customCount (sets.insert key s) + [old].countP (fun s => !s.standard) =
      customCount sets + [s].countP (fun s => !s.standard) := by
  have hcount := NameMap.countP_values_insert (fun s => !s.standard) sets key s
  rw [hget, Option.toList_some] at hcount
  exact hcount

/-- Taking a shipped set in neither adds nor removes a custom one. -/
theorem Reconciled.Taken.customCount_eq {r r' : Reconciled} {key : String} {incoming : FilesSet}
    (h : r.Taken key incoming r') (hincoming : incoming.standard = true) :
    customCount r'.sets = customCount r.sets := by
  have hstandard : ∀ {s : FilesSet}, s.standard = true →
      [s].countP (fun s => !s.standard) = 0 := by
    intro s hs
    simp [hs]
  have hcustom : ∀ {s : FilesSet}, s.standard = false →
      [s].countP (fun s => !s.standard) = 1 := by
    intro s hs
    simp [hs]
  cases h with
  | added hget =>
    show customCount (r.sets.insert key incoming) = _
    rw [customCount_insert_of_none incoming hget, hstandard hincoming]
    rfl
  | kept => rfl
  | upgraded hget hflag =>
    have hcount := customCount_insert_of_some incoming hget
    rw [hstandard hincoming, hstandard (hflag.trans hincoming)] at hcount
    exact hcount
  | @customMoved existing hget hexisting =>
    -- the free key gains the custom set, and then the key itself loses it
    let moved := existing.withName (freeKey r.sets key) (allBlank_freeKey r.sets key)
    have hkey : (r.sets.insert (freeKey r.sets key) moved).get? key = some existing :=
      (NameMap.get?_insert_of_ne _ _ (freeKey_ne r.sets key)).trans hget
    have hgain := customCount_insert_of_none moved (get?_freeKey r.sets key)
    have hloss := customCount_insert_of_some incoming hkey
    rw [hcustom (s := moved) hexisting] at hgain
    rw [hcustom hexisting, hstandard hincoming, hgain] at hloss
    exact Nat.succ.inj hloss
  | incomingMoved _ _ hexisting =>
    rw [hincoming] at hexisting
    cases hexisting

theorem customCount_reconcile {shipped : Definitions} (user : Definitions)
    (hshipped : shipped.AllStandard) :
    customCount (reconcile shipped user).sets = customCount user := by
  revert hshipped
  refine reconcile_induction
    (motive := fun shipped r => shipped.AllStandard → customCount r.sets = customCount user)
    (fun _ => rfl) ?_ shipped
  intro shipped key s r' hfresh ih htaken hall
  obtain ⟨hs, hold⟩ := AllStandard.of_insert hfresh hall
  rw [htaken.customCount_eq hs, ih hold]

theorem customKept_reconcile {shipped user : Definitions} (hshipped : shipped.AllStandard)
    (huser : user.Named) : CustomKept user (reconcile shipped user).sets := by
  obtain ⟨place, hplace⟩ := placement_reconcile user hshipped
  -- a displaced set is where it has been moved to, and any other where it was
  let place' (k : String) : String := if shipped.contains k = true then place k else k
  have hin : ∀ {k}, shipped.contains k = true → place' k = place k := fun h => if_pos h
  have hout : ∀ {k}, ¬ shipped.contains k = true → place' k = k := fun h => if_neg h
  refine ⟨⟨place', ?_, ?_⟩, customCount_reconcile user hshipped⟩
  · rintro i ⟨u, hu, hucustom⟩ j ⟨v, hv, hvcustom⟩ heq
    by_cases hi : shipped.contains i = true
    · by_cases hj : shipped.contains j = true
      · rw [hin hi, hin hj] at heq
        exact hplace.injective ⟨hi, hu, hucustom⟩ ⟨hj, hv, hvcustom⟩ heq
      · rw [hin hi, hout hj] at heq
        exact absurd heq.symm (hplace.ne_place_of_user hv ⟨hi, hu, hucustom⟩)
    · by_cases hj : shipped.contains j = true
      · rw [hout hi, hin hj] at heq
        exact absurd heq (hplace.ne_place_of_user hu ⟨hj, hv, hvcustom⟩)
      · rwa [hout hi, hout hj] at heq
  · intro k u hu hcustom
    by_cases hk : shipped.contains k = true
    · obtain ⟨⟨n, hn⟩, -, -, hget⟩ := hplace.displaced ⟨hk, hu, hcustom⟩
      rw [hin hk]
      exact ⟨⟨n + 1, hn⟩, hget⟩
    · have hfresh : shipped.get? k = none := by
        rwa [← NameMap.contains_eq_false_iff, ← Bool.not_eq_true]
      obtain ⟨hname, heq⟩ := FilesSet.withName_of_name_eq (huser.name_eq hu)
      rw [hout hk, get?_reconcile_of_not_shipped shipped hu hfresh]
      exact ⟨⟨0, rfl⟩, hname, congrArg some heq.symm⟩

theorem standardKept_reconcile {shipped : Definitions} (user : Definitions)
    (hshipped : shipped.AllStandard) : StandardKept user (reconcile shipped user).sets := by
  obtain ⟨place, hplace⟩ := placement_reconcile user hshipped
  intro k u hu hflag
  cases hs : shipped.get? k with
  | none => exact ⟨u, get?_reconcile_of_not_shipped shipped hu hs, hflag, UInt32.le_refl _⟩
  | some s =>
    have hget := hplace.at_shipped hs
    rw [hu, preferred] at hget
    split at hget
    · exact ⟨u, hget, hflag, UInt32.le_refl _⟩
    · next hnewer =>
      have hlt : u.version < s.version :=
        UInt32.not_le.1 fun hle => hnewer ⟨hflag, hle⟩
      exact ⟨s, hget, hshipped.standard_eq hs, UInt32.le_of_lt hlt⟩

/-! ## Any number of upgrades -/

theorem standardKept_upgraded (user : Definitions) {releases : List Definitions}
    (hreleases : ∀ shipped ∈ releases, shipped.AllStandard) :
    StandardKept user (upgraded user releases) := by
  induction releases generalizing user with
  | nil => exact .refl user
  | cons shipped releases ih =>
    rw [List.forall_mem_cons] at hreleases
    rw [upgraded_cons]
    exact (standardKept_reconcile user hreleases.1).trans (ih _ hreleases.2)

theorem customKept_upgraded {user : Definitions} (huser : user.Named)
    {releases : List Definitions}
    (hreleases : ∀ shipped ∈ releases, shipped.AllStandard ∧ shipped.Named) :
    CustomKept user (upgraded user releases) := by
  induction releases generalizing user with
  | nil => exact .refl huser
  | cons shipped releases ih =>
    rw [List.forall_mem_cons] at hreleases
    obtain ⟨⟨hstandard, hnamed⟩, hrest⟩ := hreleases
    rw [upgraded_cons]
    exact (customKept_reconcile hstandard huser).trans (ih (named_reconcile hnamed huser) hrest)

/-- No custom set is ever lost, and no shipped set is lost or gets older, over any number of
upgrades. -/
theorem upgraded_keeps {user : Definitions} (huser : user.Named) {releases : List Definitions}
    (hreleases : ∀ shipped ∈ releases, shipped.AllStandard ∧ shipped.Named) :
    CustomKept user (upgraded user releases) ∧
      ∀ earlier later rest, releases = earlier ++ later ++ rest →
        StandardKept (upgraded user earlier) (upgraded user (earlier ++ later)) := by
  refine ⟨customKept_upgraded huser hreleases, ?_⟩
  intro earlier later rest heq
  rw [upgraded_append]
  refine standardKept_upgraded _ fun shipped hmem => (hreleases shipped ?_).1
  rw [heq, List.append_assoc]
  exact List.mem_append_right _ (List.mem_append_left _ hmem)

/-- A release that ships a set under the name that a custom set has been moved to. -/
def laterRelease : Definitions :=
  ofNames [("A", true, 2), ("A (Custom)", true, 1)]

/-- A release before that. -/
def earlierRelease : Definitions := ofNames [("A", true, 1)]

/-- A custom set under the name that both releases ship. -/
def customUser : Definitions := ofNames [("A", false, 7), ("B", true, 3)]

theorem two_releases_keep :
    (customUser.Named ∧
      ∀ shipped ∈ [earlierRelease, laterRelease], shipped.AllStandard ∧ shipped.Named) ∧
      CustomKept customUser (upgraded customUser [earlierRelease, laterRelease]) ∧
      ∀ earlier later rest, [earlierRelease, laterRelease] = earlier ++ later ++ rest →
        StandardKept (upgraded customUser earlier) (upgraded customUser (earlier ++ later)) :=
  ⟨by decide, upgraded_keeps (by decide) (by decide)⟩

end FileTriage.Definitions
