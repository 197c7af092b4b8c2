/-
When reconciling a second time changes nothing.

Here the sets that come in may be flagged as custom ones too.  After a pass every incoming key
holds a set with the flag of the incoming one and at least its version, so the next pass keeps it;
the exception is a key at which a custom set has come in upon one flagged as shipped.  There the
incoming set moves on every pass, each time to a fresh key.
-/
import FileTriage.Proofs.Definitions.Reconcile

namespace FileTriage.Definitions

/-- A custom set comes in under the key of a set that is flagged as shipped. -/
def Clash (incoming user : Definitions) (key : String) : Prop :=
  ∃ s u, incoming.get? key = some s ∧ user.get? key = some u ∧ s.standard = false ∧
    u.standard = true

/-- A set that a pass keeps when `s` comes in under its key. -/
def UpToDate (s d : FilesSet) : Prop := d.standard = s.standard ∧ s.version ≤ d.version

/-! ## What a pass leaves behind -/

/-- What is under a key that neither side has yet is a custom set that has moved there. -/
theorem standard_eq_false_of_new (incoming : Definitions) {user : Definitions} {k : String}
    (huser : user.get? k = none) (hincoming : incoming.get? k = none) {d : FilesSet}
    (hget : (reconcile incoming user).sets.get? k = some d) : d.standard = false := by
  revert hincoming d
  refine reconcile_induction
    (motive := fun incoming r => incoming.get? k = none →
      ∀ {d}, r.sets.get? k = some d → d.standard = false) ?_ ?_ incoming
  · intro _ d hget
    rw [huser] at hget
    cases hget
  · intro incoming key s r' _ ih htaken hincoming d hget
    rw [NameMap.get?_insert] at hincoming
    split at hincoming
    · cases hincoming
    · next hne =>
      rcases htaken.origin hget with hbefore | ⟨heq, -⟩ | ⟨-, hcustom, -⟩
      · exact ih hincoming hbefore
      · exact absurd heq hne
      · exact hcustom

/-- An incoming key holds a set that the next pass keeps, unless there is a clash at the key. -/
theorem upToDate_reconcile {incoming : Definitions} (user : Definitions) {k : String}
    {s : FilesSet} (hs : incoming.get? k = some s) (hclash : ¬ Clash incoming user k) :
    ∃ d, (reconcile incoming user).sets.get? k = some d ∧ UpToDate s d := by
  revert hs hclash
  refine reconcile_induction
    (motive := fun incoming r => incoming.get? k = some s → ¬ Clash incoming user k →
      ∃ d, r.sets.get? k = some d ∧ UpToDate s d) ?_ ?_ incoming
  · intro hs
    cases hs
  · intro incoming key t r' hfresh ih htaken hs hclash
    by_cases hk : key = k
    · subst hk
      rw [NameMap.get?_insert_self] at hs
      cases hs
      have hself : UpToDate s s := ⟨rfl, UInt32.le_refl _⟩
      cases htaken with
      | added => exact ⟨s, NameMap.get?_insert_self _ _ _, hself⟩
      | kept hget hflag hversion => exact ⟨_, hget, hflag, hversion⟩
      | upgraded => exact ⟨s, NameMap.get?_insert_self _ _ _, hself⟩
      | customMoved => exact ⟨s, by rw [Reconciled.get?_makeRoom, if_pos rfl], hself⟩
      | @incomingMoved existing hget hstandard hcustom =>
        -- the set that was there is the user's own, since only custom sets move
        exfalso
        cases hu : user.get? key with
        | none =>
          rw [standard_eq_false_of_new incoming hu hfresh hget] at hstandard
          cases hstandard
        | some u =>
          have hown := get?_reconcile_of_not_shipped incoming hu hfresh
          rw [hget] at hown
          cases hown
          exact hclash ⟨s, existing, NameMap.get?_insert_self _ _ _, hu, hcustom, hstandard⟩
    · rw [NameMap.get?_insert_of_ne _ _ hk] at hs
      -- a clash before this step would be one after it
      have hold : ¬ Clash incoming user k := by
        rintro ⟨t', u, ht', hrest⟩
        exact hclash ⟨t', u, (NameMap.get?_insert_of_ne _ _ hk).trans ht', hrest⟩
      obtain ⟨d, hd, hupToDate⟩ := ih hs hold
      exact ⟨d, htaken.get?_of_ne hk hd, hupToDate⟩

/-- At a clash the user's set stays, and the incoming one is put under a key of its own. -/
theorem get?_reconcile_of_clash {incoming user : Definitions} {k : String} {s u : FilesSet}
    (hs : incoming.get? k = some s) (hu : user.get? k = some u) (hcustom : s.standard = false)
    (hstandard : u.standard = true) :
    (reconcile incoming user).sets.get? k = some u ∧
      ∃ free, user.get? free = none ∧ ∃ d, (reconcile incoming user).sets.get? free = some d := by
  revert hs
  refine reconcile_induction
    (motive := fun incoming r => incoming.get? k = some s → r.sets.get? k = some u ∧
      ∃ free, user.get? free = none ∧ ∃ d, r.sets.get? free = some d) ?_ ?_ incoming
  · intro hs
    cases hs
  · intro incoming key t r' hfresh ih htaken hs
    by_cases hk : key = k
    · subst hk
      rw [NameMap.get?_insert_self] at hs
      cases hs
      -- until its key comes in, the user's set is where it was
      have hown := get?_reconcile_of_not_shipped incoming hu hfresh
      have hflags : ∀ {d}, (reconcile incoming user).sets.get? key = some d →
          ¬ d.standard = s.standard := by
        intro d hd
        rw [hown] at hd
        cases hd
        rw [hstandard, hcustom]
        exact Bool.true_eq_false_eq_False
      cases htaken with
      | added hget =>
        rw [hown] at hget
        cases hget
      | kept hget hflag => exact absurd hflag (hflags hget)
      | upgraded hget hflag => exact absurd hflag (hflags hget)
      | customMoved hget _ hincoming =>
        rw [hcustom] at hincoming
        cases hincoming
      | incomingMoved hget =>
        rw [hown] at hget
        cases hget
        have hfree := get?_freeKey (reconcile incoming user).sets key
        refine ⟨by rw [Reconciled.get?_makeRoom, if_pos rfl],
          freeKey (reconcile incoming user).sets key, user_get?_eq_none hfree, ?_⟩
        · rw [Reconciled.get?_makeRoom, if_neg (freeKey_ne _ _).symm, if_pos rfl]
          exact ⟨_, rfl⟩
    · rw [NameMap.get?_insert_of_ne _ _ hk] at hs
      obtain ⟨hget, free, hfree, d, hd⟩ := ih hs
      exact ⟨htaken.get?_of_ne hk hget, free, hfree, htaken.exists_get? hd⟩

/-! ## The second pass -/

theorem Reconciled.take_eq_self {r : Reconciled} {key : String} {s d : FilesSet}
    (hget : r.sets.get? key = some d) (h : UpToDate s d) : r.take key s = r := by
  have hflag : ¬ d.standard ≠ s.standard := not_not.2 h.1
  rw [Reconciled.take, hget]
  simp only
  rw [if_neg hflag, if_pos h.2]

/-- A pass changes nothing if it would keep every set that has an incoming key. -/
theorem reconcile_eq_self {incoming user : Definitions}
    (h : ∀ k s, incoming.get? k = some s → ∃ d, user.get? k = some d ∧ UpToDate s d) :
    reconcile incoming user = { sets := user } := by
  induction incoming using NameMap.ascending_induction with
  | empty => rfl
  | insert incoming key s hlt ih =>
    have hfresh := NameMap.get?_eq_none_of_lt hlt
    have hold := ih fun k t hget => h k t (NameMap.get?_insert_of_fresh s hfresh hget)
    obtain ⟨d, hd, hupToDate⟩ := h key s (NameMap.get?_insert_self _ _ _)
    rw [reconcile_insert s hlt, hold]
    exact Reconciled.take_eq_self hd hupToDate

theorem reconcile_reconcile_of_not_clash {incoming user : Definitions}
    (h : ¬ ∃ k, Clash incoming user k) :
    reconcile incoming (reconcile incoming user).sets =
      { sets := (reconcile incoming user).sets } :=
  reconcile_eq_self fun k _ hs => upToDate_reconcile user hs fun hclash => h ⟨k, hclash⟩

/-- At a clash the second pass fills one more key. -/
theorem exists_new_key_of_clash {incoming user : Definitions} {k : String}
    (h : Clash incoming user k) :
    ∃ free, (reconcile incoming user).sets.get? free = none ∧
      ∃ d, (reconcile incoming (reconcile incoming user).sets).sets.get? free = some d := by
  obtain ⟨s, u, hs, hu, hcustom, hstandard⟩ := h
  -- the user's set stays, so the second pass meets the same clash
  obtain ⟨honce, -⟩ := get?_reconcile_of_clash hs hu hcustom hstandard
  exact (get?_reconcile_of_clash hs honce hcustom hstandard).2

/-- Reconciling again changes nothing and reports nothing exactly if there is no clash, in
particular if all incoming sets are flagged as shipped; at a clash it adds a key. -/
theorem reconcile_idempotent_iff (incoming user : Definitions) :
    (reconcile incoming (reconcile incoming user).sets =
        { sets := (reconcile incoming user).sets, report := {} } ↔
      ¬ ∃ k, Clash incoming user k) ∧
    (incoming.AllStandard →
      reconcile incoming (reconcile incoming user).sets =
        { sets := (reconcile incoming user).sets, report := {} }) ∧
    ((∃ k, Clash incoming user k) →
      ∃ free, (reconcile incoming user).sets.get? free = none ∧
        ∃ d, (reconcile incoming (reconcile incoming user).sets).sets.get? free = some d) := by
  refine ⟨⟨?_, reconcile_reconcile_of_not_clash⟩, ?_, ?_⟩
  · rintro hsame ⟨k, hclash⟩
    obtain ⟨free, hfree, d, hd⟩ := exists_new_key_of_clash hclash
    rw [hsame, hfree] at hd
    cases hd
  · intro hall
    refine reconcile_reconcile_of_not_clash ?_
    rintro ⟨k, s, u, hs, -, hcustom, -⟩
    rw [hall.standard_eq hs] at hcustom
    cases hcustom
  · rintro ⟨k, hclash⟩
    exact exists_new_key_of_clash hclash

end FileTriage.Definitions
