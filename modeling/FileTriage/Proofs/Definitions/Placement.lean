/-
Where everything is after reconciling with shipped sets.

Every shipped set is flagged as such here.  Then a shipped key ends up with the shipped set or a
set of the user's that is at least as new, a key that is not shipped keeps what it had, and each
custom set that had a shipped key is found, under a new name, at a key of its own.  A set that has
moved can be moved again when its new key is shipped too, so the invariant of the loop tells for
each displaced set where it is now.
-/
import FileTriage.Proofs.Definitions.Reconcile
import Mathlib.Data.Set.Function

namespace FileTriage.Definitions

variable {shipped user sets : Definitions}

/-- What stands under the key of a shipped set in the end: the user's set if it is a shipped one
too and not older, and the shipped set otherwise. -/
def preferred (s : FilesSet) : Option FilesSet → FilesSet
  | some u => if u.standard = true ∧ s.version ≤ u.version then u else s
  | none => s

/-- A custom set of the user's that stands under the key of a shipped set. -/
def Displaced (shipped user : Definitions) (key : String) (u : FilesSet) : Prop :=
  shipped.contains key = true ∧ user.get? key = some u ∧ u.standard = false

/-- Where everything is when sets have been taken in.  `place` tells for the key of a displaced
set the key at which it is now. -/
structure Placement (shipped user sets : Definitions) (place : String → String) : Prop where
  /-- A shipped key holds the shipped set, or one of the user's that is at least as new. -/
  at_shipped : ∀ {k s}, shipped.get? k = some s → sets.get? k = some (preferred s (user.get? k))
  /-- A displaced set is at a key with the suffix, under that name, where no other set was or
  comes. -/
  displaced : ∀ {j u}, Displaced shipped user j u →
    (∃ n, place j = customKey j (n + 1)) ∧ shipped.get? (place j) = none ∧
      user.get? (place j) = none ∧ ∃ h, sets.get? (place j) = some (u.withName (place j) h)
  /-- No two displaced sets are at one key. -/
  injective : ∀ {i j u v}, Displaced shipped user i u → Displaced shipped user j v →
    place i = place j → i = j
  /-- What is neither shipped nor was there before is a displaced set. -/
  covered : ∀ {k t}, sets.get? k = some t → shipped.get? k = none → user.get? k = none →
    ∃ j u, Displaced shipped user j u ∧ place j = k

/-! ## One step -/

theorem displaced_insert_iff {key : String} {s : FilesSet} {j : String} {u : FilesSet}
    (hne : key ≠ j) : Displaced (shipped.insert key s) user j u ↔ Displaced shipped user j u := by
  rw [Displaced, Displaced, NameMap.contains, NameMap.contains, NameMap.get?_insert_of_ne _ _ hne]

/-- A step that moves no set, under a key that holds no custom set of the user's. -/
theorem Placement.insert_of_same {place : String → String} (h : Placement shipped user sets place)
    {key : String} {s : FilesSet} {sets' : Definitions}
    (hkey : sets'.get? key = some (preferred s (user.get? key)))
    (hsame : ∀ k, key ≠ k → sets'.get? k = sets.get? k)
    (hstandard : ∀ u, user.get? key = some u → u.standard = true)
    (hplace : ∀ j u, Displaced shipped user j u → key ≠ place j) :
    Placement (shipped.insert key s) user sets' place := by
  -- nothing is displaced that was not displaced before
  have hdisplaced : ∀ {j u}, Displaced (shipped.insert key s) user j u →
      Displaced shipped user j u := by
    intro j u hj
    refine (displaced_insert_iff ?_).1 hj
    rintro rfl
    obtain ⟨-, hget, hcustom⟩ := hj
    rw [hstandard u hget] at hcustom
    cases hcustom
  constructor
  · intro k t hget
    rw [NameMap.get?_insert] at hget
    split at hget
    · next heq =>
      subst heq
      cases hget
      exact hkey
    · next hne =>
      rw [hsame k hne]
      exact h.at_shipped hget
  · intro j u hj
    have hne := hplace j u (hdisplaced hj)
    rw [NameMap.get?_insert_of_ne _ _ hne, hsame _ hne]
    exact h.displaced (hdisplaced hj)
  · intro i j u v hi hj
    exact h.injective (hdisplaced hi) (hdisplaced hj)
  · intro k t hget hshipped huser
    rw [NameMap.get?_insert] at hshipped
    split at hshipped
    · cases hshipped
    · next hne =>
      rw [hsame k hne] at hget
      obtain ⟨j, u, hj, hjk⟩ := h.covered hget hshipped huser
      refine ⟨j, u, (displaced_insert_iff ?_).2 hj, hjk⟩
      rintro rfl
      -- the user has a set at `j`, and it is not custom
      obtain ⟨-, hju, hcustom⟩ := hj
      rw [hstandard u hju] at hcustom
      cases hcustom

/-- A key that is free is not shipped. -/
theorem Placement.shipped_get?_eq_none {place : String → String}
    (h : Placement shipped user sets place) {k : String} (hfree : sets.get? k = none) :
    shipped.get? k = none := by
  by_contra hsome
  obtain ⟨t, ht⟩ := Option.ne_none_iff_exists'.1 hsome
  rw [h.at_shipped ht] at hfree
  cases hfree

/-- A key that is free is not the place of a displaced set. -/
theorem Placement.ne_place {place : String → String} (h : Placement shipped user sets place)
    {k j : String} {u : FilesSet} (hfree : sets.get? k = none)
    (hj : Displaced shipped user j u) : k ≠ place j := by
  rintro rfl
  obtain ⟨_, _, _, _, hget⟩ := h.displaced hj
  rw [hfree] at hget
  cases hget

/-- A step that moves the set under its key to a free one.  The set is the user's own from that
key, or one from `origin` that has been moved there before. -/
theorem Placement.makeRoom {place : String → String}
    (h : Placement shipped user (reconcile shipped user).sets place)
    {key origin : String} {s existing u₀ : FilesSet} (hfresh : shipped.get? key = none)
    (huser : ∀ u, user.get? key = some u → u.standard = false)
    (horigin : Displaced (shipped.insert key s) user origin u₀)
    (hset : ∀ name hname, existing.withName name hname = u₀.withName name hname)
    (hchain : ∃ n, key = customKey origin n)
    (hbefore : ∀ u, Displaced shipped user origin u → place origin = key)
    (hothers : ∀ j u, Displaced (shipped.insert key s) user j u → origin ≠ j →
      Displaced shipped user j u ∧ key ≠ place j) :
    Placement (shipped.insert key s) user
      ((reconcile shipped user).makeRoom key s existing).sets
      (Function.update place origin (freeKey (reconcile shipped user).sets key)) := by
  set r := reconcile shipped user
  set free := freeKey r.sets key with hfreeDef
  have hfree : r.sets.get? free = none := get?_freeKey r.sets key
  have hne : key ≠ free := (freeKey_ne r.sets key).symm
  have hother : ∀ {j}, origin ≠ j → Function.update place origin free j = place j :=
    fun hj => Function.update_of_ne (Ne.symm hj) _ _
  -- at other keys than these two nothing changes
  have hsame : ∀ {k}, key ≠ k → free ≠ k →
      (r.makeRoom key s existing).sets.get? k = r.sets.get? k := by
    intro k hk hfk
    rw [Reconciled.get?_makeRoom, if_neg hk, if_neg hfk]
  constructor
  · intro k t hget
    rw [NameMap.get?_insert] at hget
    split at hget
    · next heq =>
      subst heq
      cases hget
      rw [Reconciled.get?_makeRoom, if_pos rfl]
      cases hu : user.get? key with
      | none => rfl
      | some u => simp [preferred, huser u hu]
    · next hk =>
      have hsets := h.at_shipped hget
      -- a shipped key holds a set, so it is not the free one
      have hfk : free ≠ k := by
        rintro rfl
        rw [hfree] at hsets
        cases hsets
      rw [hsame hk hfk, hsets]
  · intro j u hj
    by_cases hjo : origin = j
    · subst hjo
      have hu : u = u₀ := Option.some.inj (hj.2.1.symm.trans horigin.2.1)
      obtain ⟨m, hm⟩ := hchain
      obtain ⟨n, hn1, -, hn, -, -⟩ := freeKey_eq_customKey r.sets key
      -- the suffixes that the search adds come behind those that were there before
      have hsuffix : free = customKey origin (m + n - 1 + 1) := by
        rw [hfreeDef, hn, hm, customKey_customKey, Nat.sub_add_cancel (by omega)]
      have huserFree : user.get? free = none := user_get?_eq_none hfree
      rw [Function.update_self, NameMap.get?_insert_of_ne _ _ hne]
      refine ⟨⟨m + n - 1, hsuffix⟩, h.shipped_get?_eq_none hfree, huserFree,
        allBlank_freeKey r.sets key, ?_⟩
      rw [Reconciled.get?_makeRoom, if_neg hne, if_pos rfl, hu, hset]
    · obtain ⟨hold, hk⟩ := hothers j u hj hjo
      rw [hother hjo, NameMap.get?_insert_of_ne _ _ hk, hsame hk (h.ne_place hfree hold)]
      exact h.displaced hold
  · intro i j u v hi hj heq
    by_cases hio : origin = i
    · by_cases hjo : origin = j
      · exact hio.symm.trans hjo
      · rw [← hio, Function.update_self, hother hjo] at heq
        -- nothing else had its place at the free key
        exact absurd heq (h.ne_place hfree (hothers j v hj hjo).1)
    · by_cases hjo : origin = j
      · rw [← hjo, Function.update_self, hother hio] at heq
        exact absurd heq.symm (h.ne_place hfree (hothers i u hi hio).1)
      · rw [hother hio, hother hjo] at heq
        exact h.injective (hothers i u hi hio).1 (hothers j v hj hjo).1 heq
  · intro k t hget hshipped hnew
    by_cases hfk : free = k
    · exact ⟨origin, u₀, horigin, by rw [Function.update_self, hfk]⟩
    · rw [NameMap.get?_insert] at hshipped
      split at hshipped
      · cases hshipped
      · next hk =>
        rw [hsame hk hfk] at hget
        obtain ⟨j, u, hj, hjk⟩ := h.covered hget hshipped hnew
        -- the new key was not shipped, so it displaced nothing
        have hkj : key ≠ j := by
          rintro rfl
          rw [Displaced, NameMap.contains, hfresh] at hj
          cases hj.1
        have hjo : origin ≠ j := by
          rintro rfl
          exact hk ((hbefore u hj).symm.trans hjk)
        exact ⟨j, u, (displaced_insert_iff hkj).2 hj, (hother hjo).trans hjk⟩

/-- A set under a key that the user did not have and that is not shipped has been moved there. -/
theorem Placement.eq_withName {place : String → String} (h : Placement shipped user sets place)
    {key : String} {d : FilesSet} (hd : sets.get? key = some d) (hfresh : shipped.get? key = none)
    (hnone : user.get? key = none) :
    ∃ j u, Displaced shipped user j u ∧ place j = key ∧ ∃ hname, d = u.withName key hname := by
  obtain ⟨j, u, hj, rfl⟩ := h.covered hd hfresh hnone
  obtain ⟨-, -, -, hname, hget⟩ := h.displaced hj
  exact ⟨j, u, hj, rfl, hname, Option.some.inj (hd.symm.trans hget)⟩

/-- A key of the user's is not the place of a displaced set. -/
theorem Placement.ne_place_of_user {place : String → String}
    (h : Placement shipped user sets place) {k j : String} {u v : FilesSet}
    (hu : user.get? k = some u) (hj : Displaced shipped user j v) : k ≠ place j := by
  rintro rfl
  obtain ⟨-, -, hnone, -⟩ := h.displaced hj
  rw [hu] at hnone
  cases hnone

/-- A set that is flagged as a shipped one, under a key that has not been shipped, is the user's
own. -/
theorem Placement.user_get?_of_standard {place : String → String}
    (h : Placement shipped user (reconcile shipped user).sets place) {key : String} {d : FilesSet}
    (hfresh : shipped.get? key = none) (hd : (reconcile shipped user).sets.get? key = some d)
    (hflag : d.standard = true) : user.get? key = some d := by
  cases hu : user.get? key with
  | some u =>
    have hkept := get?_reconcile_of_not_shipped shipped hu hfresh
    exact hkept.symm.trans hd
  | none =>
    obtain ⟨j, u, hj, -, hname, rfl⟩ := h.eq_withName hd hfresh hu
    rw [FilesSet.standard_withName, hj.2.2] at hflag
    cases hflag

/-- A step that finds a set flagged as a shipped one leaves all others where they are. -/
theorem Placement.insert_of_standard {place : String → String}
    (h : Placement shipped user (reconcile shipped user).sets place) {key : String}
    {s d : FilesSet} (hfresh : shipped.get? key = none)
    (hd : (reconcile shipped user).sets.get? key = some d) (hflag : d.standard = true)
    {sets' : Definitions} (hkey : sets'.get? key = some (preferred s (some d)))
    (hsame : ∀ k, key ≠ k → sets'.get? k = (reconcile shipped user).sets.get? k) :
    Placement (shipped.insert key s) user sets' place := by
  have hu := h.user_get?_of_standard hfresh hd hflag
  refine h.insert_of_same (hu ▸ hkey) hsame ?_ fun j v hj => h.ne_place_of_user hu hj
  intro v hv
  rw [hu] at hv
  cases hv
  exact hflag

/-- A step that finds a custom set moves it to a free key. -/
theorem Placement.insert_of_custom {place : String → String}
    (h : Placement shipped user (reconcile shipped user).sets place) {key : String}
    {s d : FilesSet} (hfresh : shipped.get? key = none)
    (hd : (reconcile shipped user).sets.get? key = some d) (hcustom : d.standard = false) :
    ∃ place', Placement (shipped.insert key s) user
      ((reconcile shipped user).makeRoom key s d).sets place' := by
  have hcontains : (shipped.insert key s).contains key = true := by
    rw [NameMap.contains, NameMap.get?_insert_self]
    rfl
  cases hu : user.get? key with
  | some u =>
    -- the user's own set is moved for the first time
    have hud : u = d :=
      Option.some.inj ((get?_reconcile_of_not_shipped shipped hu hfresh).symm.trans hd)
    subst hud
    refine ⟨_, h.makeRoom hfresh ?_ ⟨hcontains, hu, hcustom⟩ (fun _ _ => rfl) ⟨0, rfl⟩ ?_ ?_⟩
    · intro v hv
      rw [hu] at hv
      cases hv
      exact hcustom
    · intro v hv
      rw [Displaced, NameMap.contains, hfresh] at hv
      cases hv.1
    · intro j v hj hne
      have hold := (displaced_insert_iff hne).1 hj
      exact ⟨hold, h.ne_place_of_user hu hold⟩
  | none =>
    -- a set that has been moved to this key is moved again
    obtain ⟨j₀, u₀, hj₀, hplace, hname, rfl⟩ := h.eq_withName hd hfresh hu
    have hne : ∀ {j v}, user.get? j = some v → key ≠ j := by
      rintro j v hv rfl
      rw [hu] at hv
      cases hv
    refine ⟨_, h.makeRoom hfresh ?_ ((displaced_insert_iff (hne hj₀.2.1)).2 hj₀) (fun _ _ => rfl)
      ?_ (fun _ _ => hplace) ?_⟩
    · intro v hv
      exact absurd rfl (hne hv)
    · obtain ⟨⟨n, hn⟩, -⟩ := h.displaced hj₀
      exact ⟨n + 1, hplace ▸ hn⟩
    · intro j v hj hj₀j
      have hold := (displaced_insert_iff (hne hj.2.1)).1 hj
      exact ⟨hold, fun heq => hj₀j (h.injective hj₀ hold (hplace.trans heq))⟩

/-- A step with a shipped set. -/
theorem Placement.insert {r' : Reconciled} {place : String → String}
    (h : Placement shipped user (reconcile shipped user).sets place) {key : String}
    {s : FilesSet} (hfresh : shipped.get? key = none) (hs : s.standard = true)
    (htaken : (reconcile shipped user).Taken key s r') :
    ∃ place', Placement (shipped.insert key s) user r'.sets place' := by
  cases htaken with
  | added hget =>
    have hnone : user.get? key = none := user_get?_eq_none hget
    refine ⟨place, h.insert_of_same ?_ (fun k hk => NameMap.get?_insert_of_ne _ _ hk) ?_ ?_⟩
    · rw [NameMap.get?_insert_self, hnone]
      rfl
    · intro u hu
      rw [hnone] at hu
      cases hu
    · intro j u hj
      exact h.ne_place hget hj
  | kept hget hflag hversion =>
    have hd := hflag.trans hs
    refine ⟨place, h.insert_of_standard hfresh hget hd ?_ fun _ _ => rfl⟩
    rw [hget, preferred, if_pos ⟨hd, hversion⟩]
  | upgraded hget hflag hversion =>
    refine ⟨place, h.insert_of_standard hfresh hget (hflag.trans hs) ?_ ?_⟩
    · rw [NameMap.get?_insert_self, preferred, if_neg]
      exact fun hold => UInt32.not_le.2 hversion hold.2
    · exact fun k hk => NameMap.get?_insert_of_ne _ _ hk
  | customMoved hget hcustom => exact h.insert_of_custom hfresh hget hcustom
  | incomingMoved _ _ hcustom =>
    rw [hs] at hcustom
    cases hcustom

/-! ## All steps -/

/-- Where everything is after reconciling with shipped sets. -/
theorem placement_reconcile (user : Definitions) (hshipped : shipped.AllStandard) :
    ∃ place, Placement shipped user (reconcile shipped user).sets place := by
  revert hshipped
  refine reconcile_induction
    (motive := fun shipped r => shipped.AllStandard → ∃ place, Placement shipped user r.sets place)
    ?_ ?_ shipped
  · intro _
    refine ⟨id, ⟨?_, ?_, ?_, ?_⟩⟩
    · intro k s hget
      cases hget
    · intro j u hj
      cases hj.1
    · intro i j u v hi
      cases hi.1
    · intro k t hget _ huser
      rw [huser] at hget
      cases hget
  · intro shipped key s r' hfresh ih htaken hall
    obtain ⟨hs, hold⟩ := AllStandard.of_insert hfresh hall
    obtain ⟨place, hplace⟩ := ih hold
    exact hplace.insert hfresh hs htaken

/-! ## The result -/

/-- What reconciling with shipped sets gives, key by key. -/
structure IsReconciliation (shipped user result : Definitions) : Prop where
  /-- A shipped key holds the user's set if that is a shipped one and not older, and the shipped
  set otherwise. -/
  at_shipped : ∀ k s, shipped.get? k = some s → result.get? k = some (preferred s (user.get? k))
  /-- A key that is not shipped keeps the user's set. -/
  at_others : ∀ k u, shipped.get? k = none → user.get? k = some u → result.get? k = some u
  /-- The displaced sets are, each at one key and no two at the same, at all the keys that are
  neither shipped nor the user's: under their key with the suffix, renamed to it. -/
  displaced : ∃ place : String → String,
    Set.BijOn place {j | ∃ u, Displaced shipped user j u}
      {k | result.contains k = true ∧ shipped.contains k = false ∧ user.contains k = false} ∧
    ∀ j u, Displaced shipped user j u →
      (∃ n, place j = customKey j (n + 1)) ∧
      ∃ h, result.get? (place j) = some (u.withName (place j) h)
  /-- Every set stands under its name. -/
  named : result.Named

/-- Shipped sets of which one has the name that a displaced set takes first. -/
def chainShipped : Definitions := ofNames [("A", true, 1), ("A (Custom)", true, 2)]

/-- Custom sets under a shipped name and under the name after the next. -/
def chainUser : Definitions := ofNames [("A", false, 7), ("A (Custom) (Custom)", false, 3)]

/-- The displaced set moves twice, and past the one that has the suffix twice already. -/
example : (reconcile chainShipped chainUser).sets.entries.map (fun e => (e.1, e.2.version)) =
    [("A", 1), ("A (Custom)", 2), ("A (Custom) (Custom)", 3),
      ("A (Custom) (Custom) (Custom)", 7)] := by
  decide

end FileTriage.Definitions
