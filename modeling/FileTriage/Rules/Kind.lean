/-
The kinds of conditions, in the order in which a rule evaluates them, and the reasons for refusing
a condition, a rule or a files set.
-/
import FileTriage.Regex

namespace FileTriage

/-- The kinds of conditions, in evaluation order. -/
inductive ConditionKind where
  | name
  | metaType
  | parentPath
  | mimeType
  | fileSize
  | date
deriving DecidableEq, Repr

namespace ConditionKind

/-- The place of a kind in evaluation order. -/
def rank : ConditionKind → Nat
  | name => 0
  | metaType => 1
  | parentPath => 2
  | mimeType => 3
  | fileSize => 4
  | date => 5

/-- What messages call a kind. -/
def label : ConditionKind → String
  | name => "name"
  | metaType => "meta type"
  | parentPath => "parent path"
  | mimeType => "MIME type"
  | fileSize => "file size"
  | date => "date"

theorem rank_injective {a b : ConditionKind} (h : a.rank = b.rank) : a = b := by
  cases a <;> cases b <;> first | rfl | (exact absurd h (by decide))

end ConditionKind

/-- What has a name that may not be blank. -/
inductive NamedThing where
  | ruleId
  | rule
  | filesSet
deriving DecidableEq, Repr

/-- What messages call it. -/
def NamedThing.label : NamedThing → String
  | ruleId => "Rule id"
  | rule => "Rule"
  | filesSet => "Files set"

/-- What has a pattern that may not be blank. -/
inductive PatternField where
  | name
  | extension
  | parentPath
  | mimeType
deriving DecidableEq, Repr

/-- What messages call it. -/
def PatternField.label : PatternField → String
  | name => "name"
  | extension => "extension"
  | parentPath => "parent path"
  | mimeType => "MIME type"

/-- Why a condition, a rule or a files set is refused. -/
inductive ConstructionError where
  | invalidRegex (pattern : String) (fault : Regex.Fault)
  | emptyName (thing : NamedThing)
  | emptyPattern (field : PatternField)
  | zeroSize
  | noConditions (rule : String)
  | duplicateCondition (rule : String) (kind : ConditionKind)
  | duplicateRuleId (set id : String)
deriving DecidableEq, Repr

/-- The wording of a refusal; what is wrong with a regular expression stays unsaid. -/
def ConstructionError.message : ConstructionError → String
  | invalidRegex pattern _ => s!"Invalid regular expression '{pattern}'"
  | emptyName thing => s!"{thing.label} name must not be empty"
  | emptyPattern field => s!"Empty pattern for {field.label} condition"
  | zeroSize =>
    "Invalid file size condition: value must be greater than 0 unless the comparator is '='"
  | noConditions rule => s!"Rule '{rule}' must have at least one condition"
  | duplicateCondition rule kind => s!"Rule '{rule}' has more than one {kind.label} condition"
  | duplicateRuleId set id => s!"Files set '{set}' has more than one rule with id '{id}'"

end FileTriage
