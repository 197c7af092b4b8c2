/-
Which rules can be built, and from what.

A rule looks for repeated kinds only among neighbours, after it has put its conditions into
evaluation order.  There equal kinds stand together, so the first two neighbours of one kind have
the first kind that is there twice (`firstRepeated_of_repeatedKind?`).  What is there twice does not
depend on the order in which the conditions are given, and so neither does what is built nor why
nothing is.
-/
import FileTriage.Proofs.Rules.Building
import Mathlib.Data.List.Duplicate

namespace FileTriage.Rule

variable {id name : String} {given other conditions : List Condition} {exclusive : Bool}

/-! ## Repeated kinds -/

/-- The first kind, in evaluation order, that more than one of the conditions has. -/
structure FirstRepeated (given : List Condition) (kind : ConditionKind) : Prop where
  repeated : List.Duplicate kind (given.map Condition.kind)
  first : ∀ other, List.Duplicate other (given.map Condition.kind) → kind.rank ≤ other.rank

theorem FirstRepeated.unique {kind kind' : ConditionKind} (h : FirstRepeated given kind)
    (h' : FirstRepeated given kind') : kind = kind' :=
  ConditionKind.rank_injective
    (Nat.le_antisymm (h.first kind' h'.repeated) (h'.first kind h.repeated))

theorem duplicate_iff_of_perm (hperm : given.Perm other) (kind : ConditionKind) :
    List.Duplicate kind (given.map Condition.kind) ↔
      List.Duplicate kind (other.map Condition.kind) := by
  rw [List.duplicate_iff_two_le_count, List.duplicate_iff_two_le_count,
    (hperm.map Condition.kind).count_eq]

/-- What is repeated first does not depend on the order of the conditions. -/
theorem FirstRepeated.of_perm {kind : ConditionKind} (h : FirstRepeated given kind)
    (hperm : given.Perm other) : FirstRepeated other kind where
  repeated := (duplicate_iff_of_perm hperm kind).1 h.repeated
  first := fun k hk => h.first k ((duplicate_iff_of_perm hperm k).2 hk)

/-- In evaluation order no condition comes before the first one. -/
theorem rank_head_le {a c : Condition} {rest : List Condition}
    (sorted : (a :: rest).Pairwise fun a b => a.kind.rank ≤ b.kind.rank) (hc : c ∈ a :: rest) :
    a.kind.rank ≤ c.kind.rank := by
  rcases List.mem_cons.1 hc with rfl | hc
  · exact Nat.le_refl _
  · exact List.rel_of_pairwise_cons sorted hc

/-- In evaluation order, the first kind that two neighbours have in common is the first that is
repeated at all. -/
theorem firstRepeated_of_repeatedKind? {kind : ConditionKind}
    (sorted : conditions.Pairwise fun a b => a.kind.rank ≤ b.kind.rank)
    (h : repeatedKind? conditions = some kind) : FirstRepeated conditions kind := by
  induction conditions with
  | nil => cases h
  | cons a rest ih =>
    cases rest with
    | nil => cases h
    | cons b rest =>
      rw [repeatedKind?] at h
      split at h
      · next heq =>
        obtain rfl := Option.some.inj h
        have hagain : a.kind ∈ (b :: rest).map Condition.kind := by
          rw [heq, List.map_cons]
          exact List.mem_cons_self
        refine ⟨List.Mem.duplicate_cons_self hagain, fun k hk => ?_⟩
        obtain ⟨c, hc, rfl⟩ := List.mem_map.1 hk.mem
        exact rank_head_le sorted hc
      · next hne =>
        have hrest := ih sorted.of_cons h
        refine ⟨hrest.repeated.duplicate_cons _, fun k hk => ?_⟩
        rcases List.duplicate_cons_iff.1 hk with ⟨rfl, hmem⟩ | hk
        · -- the second condition is of a later kind, so the first kind does not come again
          exfalso
          obtain ⟨c, hc, hkind⟩ := List.mem_map.1 hmem
          have hab : a.kind.rank ≤ b.kind.rank :=
            List.rel_of_pairwise_cons sorted List.mem_cons_self
          have hba : b.kind.rank ≤ a.kind.rank := hkind ▸ rank_head_le sorted.of_cons hc
          exact hne (ConditionKind.rank_injective (Nat.le_antisymm hab hba))
        · exact hrest.first k hk

theorem repeatedKind?_inOrder_eq_some_iff {kind : ConditionKind} :
    repeatedKind? (inOrder given) = some kind ↔ FirstRepeated given kind := by
  constructor
  · intro h
    exact (firstRepeated_of_repeatedKind? (inOrder_sorted given) h).of_perm (inOrder_perm given)
  · intro h
    have hsorted := h.of_perm (inOrder_perm given).symm
    cases hfound : repeatedKind? (inOrder given) with
    | none =>
      have hnodup := (repeatedKind?_eq_none_iff (inOrder_sorted given)).1 hfound
      exact absurd hsorted.repeated (List.nodup_iff_forall_not_duplicate.1 hnodup kind)
    | some found =>
      have hfirst := firstRepeated_of_repeatedKind? (inOrder_sorted given) hfound
      rw [hfirst.unique hsorted]

/-- Conditions of which two have one kind have a first repeated kind. -/
theorem exists_firstRepeated (h : ¬ (given.map Condition.kind).Nodup) :
    ∃ kind, FirstRepeated given kind := by
  cases hfound : repeatedKind? (inOrder given) with
  | none =>
    have hnodup := (repeatedKind?_eq_none_iff (inOrder_sorted given)).1 hfound
    exact absurd (((inOrder_perm given).map _).nodup_iff.1 hnodup) h
  | some kind => exact ⟨kind, repeatedKind?_inOrder_eq_some_iff.1 hfound⟩

/-! ## What is built and what is refused -/

/-- Why there is no rule with an id, a name and conditions. -/
inductive Refused (id name : String) (given : List Condition) : ConstructionError → Prop
  | blankId (hid : Text.allBlank id = true) : Refused id name given (.emptyName .ruleId)
  | blankName (hid : Text.allBlank id = false) (hname : Text.allBlank name = true) :
      Refused id name given (.emptyName .rule)
  | noConditions (hid : Text.allBlank id = false) (hname : Text.allBlank name = false)
      (hnone : given = []) : Refused id name given (.noConditions name)
  | repeated {kind : ConditionKind} (hid : Text.allBlank id = false)
      (hname : Text.allBlank name = false) (hkind : FirstRepeated given kind) :
      Refused id name given (.duplicateCondition name kind)

theorem Refused.of_perm {e : ConstructionError} (h : Refused id name given e)
    (hperm : given.Perm other) : Refused id name other e := by
  cases h with
  | blankId hid => exact .blankId hid
  | blankName hid hname => exact .blankName hid hname
  | noConditions hid hname hnone => exact .noConditions hid hname (hnone ▸ hperm).nil_eq.symm
  | repeated hid hname hkind => exact .repeated hid hname (hkind.of_perm hperm)

theorem refused_of_build {e : ConstructionError} (h : build id name given exclusive = .error e) :
    Refused id name given e := by
  rw [build] at h
  split at h
  · next hid =>
    split at h
    · next hname =>
      split at h
      · next hnone =>
        cases h
        exact .noConditions hid hname hnone
      · split at h
        · next kind hkind =>
          cases h
          exact .repeated hid hname (repeatedKind?_inOrder_eq_some_iff.1 hkind)
        · cases h
    · next hname =>
      cases h
      exact .blankName hid (Bool.not_eq_false _ ▸ hname)
  · next hid =>
    cases h
    exact .blankId (Bool.not_eq_false _ ▸ hid)

theorem build_of_refused {e : ConstructionError} (h : Refused id name given e) :
    build id name given exclusive = .error e := by
  cases h with
  | blankId hid => rw [build, dif_neg (by rw [hid]; decide)]
  | blankName hid hname => rw [build, dif_pos hid, dif_neg (by rw [hname]; decide)]
  | noConditions hid hname hnone => rw [build, dif_pos hid, dif_pos hname, dif_pos hnone]
  | repeated hid hname hkind =>
    have hne : given ≠ [] := by
      rintro rfl
      exact List.not_duplicate_nil _ hkind.repeated
    rw [build, dif_pos hid, dif_pos hname, dif_neg hne]
    split
    · next kind hfound =>
      rw [(repeatedKind?_inOrder_eq_some_iff.1 hfound).unique hkind]
    · next hnone =>
      rw [repeatedKind?_inOrder_eq_some_iff.2 hkind] at hnone
      cases hnone

/-- A rule is refused for the first of the reasons that hold. -/
theorem build_eq_error_iff {e : ConstructionError} :
    build id name given exclusive = .error e ↔ Refused id name given e :=
  ⟨refused_of_build, build_of_refused⟩

/-- It makes no difference in which order the conditions are given. -/
theorem build_of_perm (hperm : other.Perm given) :
    build id name other exclusive = build id name given exclusive := by
  cases hbuilt : build id name given exclusive with
  | ok r =>
    obtain ⟨hid, hname, hexclusive, hconditions⟩ := build_eq_ok_iff.1 hbuilt
    exact build_eq_ok_iff.2 ⟨hid, hname, hexclusive, hperm.trans hconditions⟩
  | error e => exact build_eq_error_iff.2 ((refused_of_build hbuilt).of_perm hperm.symm)

/-- There is a rule for everything that has an id and a name and conditions of distinct kinds. -/
theorem exists_build_iff :
    (∃ r, build id name given exclusive = .ok r) ↔
      Text.allBlank id = false ∧ Text.allBlank name = false ∧ given ≠ [] ∧
        (given.map Condition.kind).Nodup := by
  constructor
  · rintro ⟨r, hbuilt⟩
    obtain ⟨rfl, rfl, -, hperm⟩ := build_eq_ok_iff.1 hbuilt
    have hkinds : (r.conditions.map Condition.kind).Nodup :=
      (repeatedKind?_eq_none_iff (r.ascending.imp Nat.le_of_lt)).1
        (repeatedKind?_of_ascending r.ascending)
    refine ⟨r.id_not_blank, r.name_not_blank, ?_, (hperm.map _).nodup_iff.2 hkinds⟩
    rintro rfl
    exact r.conditions_ne_nil hperm.nil_eq.symm
  · rintro ⟨hid, hname, hne, hkinds⟩
    cases hbuilt : build id name given exclusive with
    | ok r => exact ⟨r, rfl⟩
    | error e =>
      -- none of the reasons for a refusal holds
      cases refused_of_build hbuilt with
      | blankId hblank => rw [hid] at hblank; cases hblank
      | blankName _ hblank => rw [hname] at hblank; cases hblank
      | noConditions _ _ hnone => exact absurd hnone hne
      | repeated _ _ hkind =>
        exact absurd hkind.repeated (List.nodup_iff_forall_not_duplicate.1 hkinds _)

theorem isSatisfiedAt_eq_all {r : Rule} (hperm : given.Perm r.conditions) (f : FileRecord)
    (now : Instant) : r.isSatisfiedAt f now = given.all fun c => c.passesAt f now := by
  rw [isSatisfiedAt, Bool.eq_iff_iff, List.all_eq_true, List.all_eq_true]
  exact forall_congr' fun c => by rw [hperm.mem_iff]

/-- A rule can be built exactly if its id and its name are not blank and it has conditions, no two of
one kind.  It has the conditions in the one order in which each kind comes after the one before it,
and a file satisfies it if it meets all the conditions that have been given.  The order in which they
are given makes no difference to the rule or to the reason why there is none; where only repeated
kinds are in the way, that reason is the first of them in evaluation order. -/
theorem build_arranges_conditions (id name : String) (given : List Condition) (exclusive : Bool) :
    ((∃ r, build id name given exclusive = .ok r) ↔
      Text.allBlank id = false ∧ Text.allBlank name = false ∧ given ≠ [] ∧
        (given.map Condition.kind).Nodup) ∧
    (∀ r, build id name given exclusive = .ok r →
      r.id = id ∧ r.name = name ∧ r.exclusive = exclusive ∧
      (∀ conditions : List Condition,
        conditions.Perm given ∧ conditions.Pairwise (fun a b => a.kind.rank < b.kind.rank) ↔
          conditions = r.conditions) ∧
      ∀ f now, r.isSatisfiedAt f now = given.all fun c => c.passesAt f now) ∧
    (∀ other : List Condition, other.Perm given →
      build id name other exclusive = build id name given exclusive) ∧
    (Text.allBlank id = false → Text.allBlank name = false →
      ¬ (given.map Condition.kind).Nodup →
      ∃ kind, FirstRepeated given kind ∧
        build id name given exclusive = .error (.duplicateCondition name kind)) ∧
    ∀ e, build id name given exclusive = .error e ↔ Refused id name given e := by
  refine ⟨exists_build_iff, ?_, fun other => build_of_perm, ?_, fun e => build_eq_error_iff⟩
  · intro r hbuilt
    obtain ⟨hid, hname, hexclusive, hperm⟩ := build_eq_ok_iff.1 hbuilt
    refine ⟨hid.symm, hname.symm, hexclusive.symm, ?_, isSatisfiedAt_eq_all hperm⟩
    intro conditions
    constructor
    · rintro ⟨hsame, hascending⟩
      -- both are what the conditions are in evaluation order
      have horder := inOrder_eq_of_perm hsame.symm hascending
      rw [← horder, inOrder_eq_of_perm hperm r.ascending]
    · rintro rfl
      exact ⟨hperm.symm, r.ascending⟩
  · intro hid hname hrepeated
    obtain ⟨kind, hkind⟩ := exists_firstRepeated hrepeated
    exact ⟨kind, hkind, build_of_refused (.repeated hid hname hkind)⟩

end FileTriage.Rule
