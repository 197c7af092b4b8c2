/-
Conditions: predicates over one attribute of a file.

A condition can only be built from a pattern or value that makes sense, so evaluating one never
fails.  Each carries the proof of that.
-/
import FileTriage.File
import FileTriage.Rules.Matcher

namespace FileTriage

/-- A condition on the name of a file or on its extension. -/
structure NameCondition where
  scope : NameScope
  pattern : String
  isRegex : Bool
  matcher : TextMatcher
  matcher_eq : scope.matcher pattern isRegex = .ok matcher
deriving DecidableEq

/-- A condition on the path of the directory that holds a file. -/
structure ParentPathCondition where
  pattern : String
  isRegex : Bool
  matcher : TextMatcher
  matcher_eq : parentPathMatcher pattern isRegex = .ok matcher
deriving DecidableEq

/-- Which meta types a condition admits. -/
inductive MetaTypeFilter where
  | files
  | directories
  | filesAndDirectories
  | all
deriving DecidableEq, Repr

/-- A condition on the MIME type that a classifier has found. -/
structure MimeTypeCondition where
  mimeType : String
  not_blank : Text.allBlank mimeType = false
deriving DecidableEq

/-- How a size is compared. -/
inductive SizeComparator where
  | greaterThan
  | lessThan
  | equal
deriving DecidableEq, Repr

/-- The sign of a comparison. -/
def SizeComparator.symbol : SizeComparator → String
  | greaterThan => ">"
  | lessThan => "<"
  | equal => "="

/-- The units of a size. -/
inductive SizeUnit where
  | bytes
  | kilobytes
  | megabytes
  | gigabytes
deriving DecidableEq, Repr

namespace SizeUnit

/-- How many bytes the unit stands for. -/
def byteCount : SizeUnit → Nat
  | bytes => 1
  | kilobytes => 1024
  | megabytes => 1024 * 1024
  | gigabytes => 1024 * 1024 * 1024

/-- The sign of a unit. -/
def symbol : SizeUnit → String
  | bytes => "B"
  | kilobytes => "KB"
  | megabytes => "MB"
  | gigabytes => "GB"

end SizeUnit

/-- A condition that compares the size of a file with a number of units. -/
structure FileSizeCondition where
  comparator : SizeComparator
  unit : SizeUnit
  value : UInt64
  sensible : value ≠ 0 ∨ comparator = .equal
deriving DecidableEq

/-- A predicate over one attribute of a file. -/
inductive Condition where
  | name (c : NameCondition)
  | metaType (admitted : MetaTypeFilter)
  | parentPath (c : ParentPathCondition)
  | mimeType (c : MimeTypeCondition)
  | fileSize (c : FileSizeCondition)
  | date (daysIncluded : UInt32)
deriving DecidableEq

/-! ## Building conditions -/

/-- A condition on the name or the extension. -/
def NameCondition.build (scope : NameScope) (pattern : String) (isRegex : Bool) :
    Except ConstructionError NameCondition :=
  match h : scope.matcher pattern isRegex with
  | .ok matcher => .ok ⟨scope, pattern, isRegex, matcher, h⟩
  | .error e => .error e

/-- A condition on the parent path. -/
def ParentPathCondition.build (pattern : String) (isRegex : Bool) :
    Except ConstructionError ParentPathCondition :=
  match h : parentPathMatcher pattern isRegex with
  | .ok matcher => .ok ⟨pattern, isRegex, matcher, h⟩
  | .error e => .error e

/-- A condition on the MIME type. -/
def MimeTypeCondition.build (mimeType : String) : Except ConstructionError MimeTypeCondition :=
  if h : Text.allBlank mimeType = false then .ok ⟨mimeType, h⟩
  else .error (.emptyPattern .mimeType)

/-- A condition on the size.  Nothing is smaller than no bytes, and asking for more than none is
what a condition on the kind of file is for, so zero can only be compared for equality. -/
def FileSizeCondition.build (comparator : SizeComparator) (unit : SizeUnit) (value : UInt64) :
    Except ConstructionError FileSizeCondition :=
  if h : value ≠ 0 ∨ comparator = .equal then .ok ⟨comparator, unit, value, h⟩
  else .error .zeroSize

/-! ## Evaluating conditions -/

/-- Whether the file's name or extension fits the pattern. -/
def NameCondition.passes (c : NameCondition) (f : FileRecord) : Bool :=
  c.matcher.accepts (match c.scope with
    | .fullName => f.name
    | .extension => f.extension)

/-- Whether the file's parent path fits the pattern. -/
def ParentPathCondition.passes (c : ParentPathCondition) (f : FileRecord) : Bool :=
  c.matcher.accepts (Path.normalize f.parentPath)

/-- Whether the filter admits a file of the meta type. -/
def MetaTypeFilter.admits (filter : MetaTypeFilter) (t : MetaType) : Bool :=
  let isDirectory := t = .directory ∨ t = .virtualDirectory
  match filter with
  | files => t = .regular
  | directories => isDirectory
  | filesAndDirectories => t = .regular ∨ isDirectory
  | all => true

/-- Whether the file has the MIME type. -/
def MimeTypeCondition.passes (c : MimeTypeCondition) (f : FileRecord) : Bool :=
  f.mimeType = some c.mimeType

/-- The size to compare with in bytes; what does not fit into 64 bits counts as the greatest
number that does. -/
def FileSizeCondition.threshold (c : FileSizeCondition) : UInt64 :=
  UInt64.ofNat (min (c.value.toNat * c.unit.byteCount) (UInt64.size - 1))

/-- Whether the file's size compares as asked. -/
def FileSizeCondition.passes (c : FileSizeCondition) (f : FileRecord) : Bool :=
  match c.comparator with
  | .greaterThan => c.threshold < f.size
  | .lessThan => f.size < c.threshold
  | .equal => f.size = c.threshold

/-- Whether the file was modified at most so many days before `now`.  A window that reaches back
past the first instant takes in every file that has a time. -/
def modifiedWithin (daysIncluded : UInt32) (f : FileRecord) (now : Instant) : Bool :=
  match f.modified, now.daysBefore? daysIncluded.toNat with
  | some modified, some earliest => earliest.notAfter modified
  | some _, none => true
  | none, _ => false

namespace Condition

/-- The kind of a condition. -/
def kind : Condition → ConditionKind
  | name _ => .name
  | metaType _ => .metaType
  | parentPath _ => .parentPath
  | mimeType _ => .mimeType
  | fileSize _ => .fileSize
  | date _ => .date

/-- Whether a file meets the condition at a given time. -/
def passesAt (c : Condition) (f : FileRecord) (now : Instant) : Bool :=
  match c with
  | name c => c.passes f
  | metaType admitted => admitted.admits f.metaType
  | parentPath c => c.passes f
  | mimeType c => c.passes f
  | fileSize c => c.passes f
  | date days => modifiedWithin days f now

/-- A condition in words. -/
def describe : Condition → String
  | name c =>
    let subject := match c.scope with
      | .fullName => "name"
      | .extension => "extension"
    let verb := if c.isRegex then "matches" else "is"
    s!"{subject} {verb} {c.pattern}"
  | metaType admitted =>
    let words := match admitted with
      | .files => "files"
      | .directories => "directories"
      | .filesAndDirectories => "files and directories"
      | .all => "anything"
    s!"meta type is {words}"
  | parentPath c =>
    let verb := if c.isRegex then "matches" else "contains"
    s!"parent path {verb} {c.pattern}"
  | mimeType c => s!"MIME type is {c.mimeType}"
  | fileSize c => s!"size {c.comparator.symbol} {c.value.toNat} {c.unit.symbol}"
  | date days => s!"modified within {days.toNat} days"

end Condition

end FileTriage
