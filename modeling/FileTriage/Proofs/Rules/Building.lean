/-
What the constructors of rules and sets accept.

A rule is made of its own parts, with its conditions in any order, and of nothing else; so is a set,
with its rules in any order.  From this follows what an edit gives: what the constructor makes of
the parts after the same edit, which asks for no check.
-/
import FileTriage.Proofs.Data.Decoding
import FileTriage.Proofs.NameMap
import FileTriage.Rules.FilesSet

namespace FileTriage

open Value (bind_eq_ok_iff)

/-! ## Rules -/

namespace Rule

theorem repeatedKind?_of_ascending {conditions : List Condition}
    (h : conditions.Pairwise fun a b => a.kind.rank < b.kind.rank) :
    repeatedKind? conditions = none := by
  induction conditions with
  | nil => rfl
  | cons a rest ih =>
    cases rest with
    | nil => rfl
    | cons b rest =>
      have hlt : a.kind.rank < b.kind.rank := List.rel_of_pairwise_cons h List.mem_cons_self
      have hne : a.kind ≠ b.kind := by
        intro heq
        rw [heq] at hlt
        exact Nat.lt_irrefl _ hlt
      rw [repeatedKind?, if_neg hne]
      exact ih h.of_cons

/-- Of conditions in evaluation order no two neighbours have one kind exactly if no two of them
have. -/
theorem repeatedKind?_eq_none_iff {conditions : List Condition}
    (sorted : conditions.Pairwise fun a b => a.kind.rank ≤ b.kind.rank) :
    repeatedKind? conditions = none ↔ (conditions.map Condition.kind).Nodup := by
  rw [List.Nodup, List.pairwise_map]
  constructor
  · intro h
    refine (pairwise_lt_of_repeatedKind?_eq_none sorted h).imp ?_
    intro a b hlt heq
    exact Nat.lt_irrefl _ (heq ▸ hlt)
  · intro h
    refine repeatedKind?_of_ascending ((sorted.and h).imp ?_)
    rintro a b ⟨hle, hne⟩
    exact Nat.lt_of_le_of_ne hle fun heq => hne (ConditionKind.rank_injective heq)

theorem inOrder_perm (conditions : List Condition) : (inOrder conditions).Perm conditions :=
  List.mergeSort_perm _ _

/-- Conditions of different kinds have only one evaluation order. -/
theorem inOrder_eq_of_perm {given conditions : List Condition} (hperm : given.Perm conditions)
    (h : conditions.Pairwise fun a b => a.kind.rank < b.kind.rank) :
    inOrder given = conditions := by
  have hkinds : (conditions.map Condition.kind).Nodup :=
    (repeatedKind?_eq_none_iff (h.imp Nat.le_of_lt)).1 (repeatedKind?_of_ascending h)
  have hsame : (inOrder given).Perm conditions := (inOrder_perm given).trans hperm
  have hnone : repeatedKind? (inOrder given) = none :=
    (repeatedKind?_eq_none_iff (inOrder_sorted given)).2 ((hsame.map _).nodup_iff.2 hkinds)
  -- both ascend in kind, so the same conditions come in the same order
  refine hsame.eq_of_pairwise ?_
    (pairwise_lt_of_repeatedKind?_eq_none (inOrder_sorted given) hnone) h
  intro a b _ _ hab hba
  omega

/-- A rule is made of its own parts, its conditions in any order, and of nothing else. -/
theorem build_eq_ok_iff {id name : String} {conditions : List Condition} {exclusive : Bool}
    {r : Rule} :
    Rule.build id name conditions exclusive = .ok r ↔
      id = r.id ∧ name = r.name ∧ exclusive = r.exclusive ∧ conditions.Perm r.conditions := by
  constructor
  · intro h
    rw [Rule.build] at h
    split at h
    · split at h
      · split at h
        · cases h
        · split at h
          · cases h
          · cases h
            exact ⟨rfl, rfl, rfl, (inOrder_perm conditions).symm⟩
      · cases h
    · cases h
  · rintro ⟨rfl, rfl, rfl, hperm⟩
    have horder : inOrder conditions = r.conditions := inOrder_eq_of_perm hperm r.ascending
    have hne : conditions ≠ [] := by
      rintro rfl
      exact r.conditions_ne_nil hperm.nil_eq.symm
    rw [Rule.build, dif_pos r.id_not_blank, dif_pos r.name_not_blank, dif_neg hne]
    split
    · next kind h =>
      rw [horder, repeatedKind?_of_ascending r.ascending] at h
      cases h
    · simp only [horder]

theorem build_self (r : Rule) : Rule.build r.id r.name r.conditions r.exclusive = .ok r :=
  build_eq_ok_iff.2 ⟨rfl, rfl, rfl, .refl _⟩

/-- Conditions in evaluation order make a rule. -/
theorem exists_build {id name : String} {conditions : List Condition}
    (hid : Text.allBlank id = false) (hname : Text.allBlank name = false) (hne : conditions ≠ [])
    (h : conditions.Pairwise fun a b => a.kind.rank < b.kind.rank) :
    ∃ r, Rule.build id name conditions = .ok r ∧ r.id = id := by
  let r : Rule := ⟨id, name, conditions, false, hid, hname, hne, h⟩
  exact ⟨r, r.build_self, rfl⟩

end Rule

/-! ## Sets -/

namespace FilesSet

/-- Rules stand under their ids exactly if they are the values, in any order. -/
theorem Rules.ofList_eq_ok_iff {set : String} {given : List Rule} {rules : Rules} :
    Rules.ofList set given = .ok rules ↔ given.Perm rules.1.values := by
  let take (m : Rules) (rule : Rule) : Except ConstructionError Rules :=
    if m.1.contains rule.id then .error (.duplicateRuleId set rule.id) else .ok (m.add rule)
  have htake : ∀ (m : Rules) rule m', (∃ s, take m rule = .ok s ∧ s.1 = m') ↔
      m.1.get? rule.id = none ∧ m' = m.1.insert rule.id rule := by
    intro m rule m'
    show (∃ s : Rules, (if m.1.contains rule.id then _ else _) = _ ∧ s.1 = m') ↔ _
    cases hcontains : m.1.contains rule.id with
    | true =>
      obtain ⟨r, hr⟩ := NameMap.contains_eq_true_iff.1 hcontains
      simp [hr]
    | false =>
      have hfree := NameMap.contains_eq_false_iff.1 hcontains
      simp [hfree, Rules.add, eq_comm]
  have hloop := (NameMap.exists_foldlM_insert_iff Subtype.val Rule.id take htake
    ⟨.empty, by simp [NameMap.empty]⟩ rfl given rules.1).trans NameMap.perm_values_iff.symm
  constructor
  · intro h
    exact (hloop.1 ⟨rules, h, rfl⟩).2
  · intro h
    obtain ⟨built, hbuilt, heq⟩ := hloop.2 ⟨rules.2, h⟩
    exact Subtype.ext heq ▸ hbuilt

/-- The parts of a set, with its rules in some order. -/
def draft (s : FilesSet) (rules : List Rule) : Draft where
  name := s.name
  description := s.description
  ignoreKnownFiles := s.ignoreKnownFiles
  ignoreUnallocatedSpace := s.ignoreUnallocatedSpace
  rules := rules
  standard := s.standard
  version := s.version

/-- A set is made of its own parts, its rules in any order, and of nothing else. -/
theorem build_eq_ok_iff {d : Draft} {s : FilesSet} :
    FilesSet.build d = .ok s ↔ d = s.draft d.rules ∧ d.rules.Perm s.rules.values := by
  constructor
  · intro h
    rw [FilesSet.build] at h
    split at h
    · obtain ⟨rules, hrules, h⟩ := bind_eq_ok_iff.1 h
      cases h
      exact ⟨rfl, Rules.ofList_eq_ok_iff.1 hrules⟩
    · cases h
  · rintro ⟨hd, hperm⟩
    generalize d.rules = rules at hd hperm
    subst hd
    have hname : Text.allBlank (s.draft rules).name = false := s.name_not_blank
    have hrules : Rules.ofList (s.draft rules).name (s.draft rules).rules = .ok ⟨s.rules, s.keyed⟩ :=
      Rules.ofList_eq_ok_iff.2 hperm
    rw [FilesSet.build, dif_pos hname, hrules]
    rfl

theorem build_self (s : FilesSet) : FilesSet.build (s.draft s.rules.values) = .ok s :=
  build_eq_ok_iff.2 ⟨rfl, .refl _⟩

/-- Rules with distinct ids make a set. -/
theorem exists_build {d : Draft} (hname : Text.allBlank d.name = false)
    (hids : (d.rules.map Rule.id).Nodup) :
    ∃ s, FilesSet.build d = .ok s ∧ s.name = d.name := by
  obtain ⟨hkeyed, hperm⟩ := NameMap.perm_values_iff.2 ⟨hids, rfl⟩
  let s : FilesSet := {
    name := d.name, description := d.description, ignoreKnownFiles := d.ignoreKnownFiles
    ignoreUnallocatedSpace := d.ignoreUnallocatedSpace
    rules := .ofList (d.rules.map fun r => (r.id, r)), standard := d.standard
    version := d.version, name_not_blank := hname, keyed := hkeyed }
  exact ⟨s, build_eq_ok_iff.2 ⟨rfl, hperm⟩, rfl⟩

end FilesSet

end FileTriage
