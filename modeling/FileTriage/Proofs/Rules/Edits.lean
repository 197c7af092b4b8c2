/-
Edits of files sets.

An edit of a set changes its parts and checks little: only a new name is looked at.  The same edits
can be made to the parts alone, with no check at all.  What the constructor then makes of the parts
is the edited set, so no edit gives a set that could not have been built.
-/
import FileTriage.Proofs.Rules.Form

namespace FileTriage

/-! ## What a set promises -/

/-- The constructor of the condition's kind accepts its parts, and makes the condition of them. -/
def Condition.Accepted : Condition → Prop
  | .name c => NameCondition.build c.scope c.pattern c.isRegex = .ok c
  | .metaType _ => True
  | .parentPath c => ParentPathCondition.build c.pattern c.isRegex = .ok c
  | .mimeType c => MimeTypeCondition.build c.mimeType = .ok c
  | .fileSize c => FileSizeCondition.build c.comparator c.unit c.value = .ok c
  | .date _ => True

theorem Condition.accepted (c : Condition) : c.Accepted := by
  cases c with
  | name c => exact c.build_self
  | metaType admitted => trivial
  | parentPath c => exact c.build_self
  | mimeType c => exact c.build_self
  | fileSize c => exact c.build_self
  | date days => trivial

/-- A rule as it may be saved: it is evaluated in order, and could be built again, exclusive or
not. -/
structure Rule.Sound (r : Rule) : Prop where
  id_not_blank : Text.allBlank r.id = false
  name_not_blank : Text.allBlank r.name = false
  conditions_ne_nil : r.conditions ≠ []
  ascending : r.conditions.Pairwise fun a b => a.kind.rank < b.kind.rank
  accepted : ∀ c ∈ r.conditions, c.Accepted
  rebuilt : Rule.build r.id r.name r.conditions r.exclusive = .ok r
  exclusive : ∀ exclusive,
    Rule.build r.id r.name r.conditions exclusive = .ok (r.withExclusive exclusive)

theorem Rule.sound (r : Rule) : r.Sound where
  id_not_blank := r.id_not_blank
  name_not_blank := r.name_not_blank
  conditions_ne_nil := r.conditions_ne_nil
  ascending := r.ascending
  accepted := fun c _ => c.accepted
  rebuilt := r.build_self
  exclusive := fun exclusive => (r.withExclusive exclusive).build_self

namespace FilesSet

/-- A set as it may be saved: its rules stand under their ids, it could be built again, and it is
read as it was written, whatever the format makes of surplus items. -/
structure Sound (s : FilesSet) : Prop where
  name_not_blank : Text.allBlank s.name = false
  keyed : ∀ id r, s.rules.get? id = some r → r.id = id
  rules : ∀ r ∈ s.rules.values, r.Sound
  rebuilt : FilesSet.build (s.draft s.rules.values) = .ok s
  reread : ∀ surplus, FilesSet.ofValue surplus s.toValue = .ok s

theorem sound (s : FilesSet) : s.Sound where
  name_not_blank := s.name_not_blank
  keyed := fun id r h => s.keyed (id, r) (NameMap.get?_eq_some_iff.1 h)
  rules := fun r _ => r.sound
  rebuilt := s.build_self
  reread := fun surplus => FilesSet.ofValue_toValue surplus s

/-! ## Edits -/

/-- The edits of a set. -/
inductive Edit where
  | withRule (rule : Rule)
  | withoutRule (id : String)
  | renamed (name : String)
  | withVersion (version : UInt32)
  | asStandard

/-- The set after an edit, or why there is none. -/
def edited (s : FilesSet) : Edit → Except ConstructionError FilesSet
  | .withRule rule => .ok (s.withRule rule)
  | .withoutRule id => .ok (s.withoutRule id)
  | .renamed name => s.renamed name
  | .withVersion version => .ok (s.withVersion version)
  | .asStandard => .ok s.asStandard

/-- The parts after an edit, of which nothing is checked. -/
def Draft.edited (d : Draft) : Edit → Draft
  | .withRule rule => { d with rules := rule :: d.rules.filter fun r => r.id ≠ rule.id }
  | .withoutRule id => { d with rules := d.rules.filter fun r => r.id ≠ id }
  | .renamed name => { d with name }
  | .withVersion version => { d with version }
  | .asStandard => { d with standard := true }

theorem values_withoutRule (s : FilesSet) (id : String) :
    (s.withoutRule id).rules.values = s.rules.values.filter fun r => r.id ≠ id :=
  NameMap.values_erase_of_keyed s.keyed id

theorem values_withRule_perm (s : FilesSet) (rule : Rule) :
    (s.withRule rule).rules.values.Perm
      (rule :: s.rules.values.filter fun r => r.id ≠ rule.id) := by
  rw [← NameMap.values_erase_of_keyed s.keyed]
  exact (NameMap.entries_insert_perm s.rules rule.id rule).map (·.2)

/-- An edit of a set gives what the constructor makes of its parts after the edit. -/
theorem build_edited {d : Draft} {s : FilesSet} (h : FilesSet.build d = .ok s) (e : Edit) :
    FilesSet.build (d.edited e) = s.edited e := by
  obtain ⟨hd, hperm⟩ := build_eq_ok_iff.1 h
  generalize d.rules = rules at hd hperm
  subst hd
  cases e with
  | withRule rule =>
    refine build_eq_ok_iff.2 ⟨rfl, ?_⟩
    exact ((hperm.filter _).cons rule).trans (s.values_withRule_perm rule).symm
  | withoutRule id =>
    refine build_eq_ok_iff.2 ⟨rfl, ?_⟩
    rw [values_withoutRule]
    exact hperm.filter _
  | renamed name =>
    by_cases hname : Text.allBlank name = false
    · rw [edited, renamed, dif_pos hname]
      exact build_eq_ok_iff.2 ⟨rfl, hperm⟩
    · rw [edited, renamed, dif_neg hname]
      exact dif_neg hname
  | withVersion version => exact build_eq_ok_iff.2 ⟨rfl, hperm⟩
  | asStandard => exact build_eq_ok_iff.2 ⟨rfl, hperm⟩

end FilesSet

end FileTriage
