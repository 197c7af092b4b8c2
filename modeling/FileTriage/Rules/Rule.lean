/-
Rules: named conjunctions of conditions.

A rule has at most one condition of each kind and keeps them in evaluation order, so rules with
the same conditions are equal however they were written.
-/
import FileTriage.Rules.Condition

namespace FileTriage

/-- A named conjunction of conditions.  Whether a rule is exclusive is kept for those who ask; it
does not change which files satisfy the rule. -/
structure Rule where
  id : String
  name : String
  conditions : List Condition
  exclusive : Bool := false
  id_not_blank : Text.allBlank id = false
  name_not_blank : Text.allBlank name = false
  conditions_ne_nil : conditions ≠ []
  ascending : conditions.Pairwise fun a b => a.kind.rank < b.kind.rank

/-- Rules are equal if their ids, names, conditions and flags are. -/
instance : DecidableEq Rule := fun a b =>
  decidable_of_iff
    (a.id = b.id ∧ a.name = b.name ∧ a.conditions = b.conditions ∧ a.exclusive = b.exclusive)
    (by cases a; cases b; simp)

namespace Rule

/-- Conditions in evaluation order; those of one kind stay in the order in which they came. -/
def inOrder (conditions : List Condition) : List Condition :=
  conditions.mergeSort fun a b => a.kind.rank ≤ b.kind.rank

/-- The first kind that two neighbours have in common. -/
def repeatedKind? : List Condition → Option ConditionKind
  | a :: b :: rest => if a.kind = b.kind then some a.kind else repeatedKind? (b :: rest)
  | _ => none

theorem inOrder_sorted (conditions : List Condition) :
    (inOrder conditions).Pairwise fun a b => a.kind.rank ≤ b.kind.rank := by
  have h := @List.pairwise_mergeSort _ (fun a b : Condition => decide (a.kind.rank ≤ b.kind.rank))
    (by intro a b c; simp only [decide_eq_true_eq]; omega)
    (by intro a b; simp only [Bool.or_eq_true, decide_eq_true_eq]; omega) conditions
  exact h.imp fun h => by simpa using h

theorem pairwise_lt_of_repeatedKind?_eq_none {conditions : List Condition}
    (sorted : conditions.Pairwise fun a b => a.kind.rank ≤ b.kind.rank)
    (h : repeatedKind? conditions = none) :
    conditions.Pairwise fun a b => a.kind.rank < b.kind.rank := by
  induction conditions with
  | nil => exact .nil
  | cons a rest ih =>
    cases rest with
    | nil => simp
    | cons b rest =>
      rw [repeatedKind?] at h
      split at h
      · exact absurd h (by simp)
      · next ne =>
        have tail := ih sorted.of_cons h
        have ab : a.kind.rank < b.kind.rank := by
          have le := List.rel_of_pairwise_cons sorted (List.mem_cons_self (a := b) (l := rest))
          have : a.kind.rank ≠ b.kind.rank := fun e => ne (ConditionKind.rank_injective e)
          omega
        refine List.pairwise_cons.2 ⟨fun c hc => ?_, tail⟩
        rcases List.mem_cons.1 hc with rfl | hc
        · exact ab
        · exact Nat.lt_trans ab (List.rel_of_pairwise_cons tail hc)

theorem inOrder_eq_nil {conditions : List Condition} (h : inOrder conditions = []) :
    conditions = [] := by
  have := congrArg List.length h
  rw [inOrder, List.length_mergeSort] at this
  exact List.eq_nil_of_length_eq_zero this

/-- The rule of an id, a name and conditions in any order, or why there is none. -/
def build (id name : String) (conditions : List Condition) (exclusive : Bool := false) :
    Except ConstructionError Rule :=
  if hid : Text.allBlank id = false then
    if hname : Text.allBlank name = false then
      if hne : conditions = [] then .error (.noConditions name)
      else
        match h : repeatedKind? (inOrder conditions) with
        | some kind => .error (.duplicateCondition name kind)
        | none => .ok ⟨id, name, inOrder conditions, exclusive, hid, hname,
            fun e => hne (inOrder_eq_nil e),
            pairwise_lt_of_repeatedKind?_eq_none (inOrder_sorted conditions) h⟩
    else .error (.emptyName .rule)
  else .error (.emptyName .ruleId)

/-- The same rule, exclusive or not. -/
def withExclusive (r : Rule) (exclusive : Bool) : Rule := { r with exclusive }

/-- Whether a file meets all conditions of the rule at a given time. -/
def isSatisfiedAt (r : Rule) (f : FileRecord) (now : Instant) : Bool :=
  r.conditions.all fun c => c.passesAt f now

end Rule

end FileTriage
