/-
The written form of files sets.

Sets, rules and conditions are records.  What is written always has all fields; what is read may
leave out those that have a default.  A condition says in its field `kind` which fields it has.
-/
import FileTriage.Data.Decoding
import FileTriage.Rules.FilesSet

namespace FileTriage

open Value

/-! ## Names of variants -/

/-- The kinds of conditions under their names. -/
def ConditionKind.variants : List (String × ConditionKind) :=
  [("name", .name), ("meta_type", .metaType), ("parent_path", .parentPath),
   ("mime_type", .mimeType), ("file_size", .fileSize), ("date", .date)]

/-- The scopes of name conditions under their names. -/
def NameScope.variants : List (String × NameScope) :=
  [("full_name", .fullName), ("extension", .extension)]

/-- The filters of meta types under their names. -/
def MetaTypeFilter.variants : List (String × MetaTypeFilter) :=
  [("files", .files), ("directories", .directories),
   ("files_and_directories", .filesAndDirectories), ("all", .all)]

/-- The comparators of sizes under their names. -/
def SizeComparator.variants : List (String × SizeComparator) :=
  [("greater_than", .greaterThan), ("less_than", .lessThan), ("equal", .equal)]

/-- The units of sizes under their names. -/
def SizeUnit.variants : List (String × SizeUnit) :=
  [("bytes", .bytes), ("kilobytes", .kilobytes), ("megabytes", .megabytes),
   ("gigabytes", .gigabytes)]

/-! ## Writing -/

/-- The fields of a condition. -/
def Condition.fields : Condition → List (String × Value)
  | .name c =>
    [("scope", text (variantName NameScope.variants c.scope)), ("pattern", text c.pattern),
     ("regex", bool c.isRegex)]
  | .metaType admitted => [("meta_type", text (variantName MetaTypeFilter.variants admitted))]
  | .parentPath c => [("pattern", text c.pattern), ("regex", bool c.isRegex)]
  | .mimeType c => [("mime_type", text c.mimeType)]
  | .fileSize c =>
    [("comparator", text (variantName SizeComparator.variants c.comparator)),
     ("unit", text (variantName SizeUnit.variants c.unit)), ("value", nat c.value.toNat)]
  | .date days => [("days_included", nat days.toNat)]

/-- The written form of a condition. -/
def Condition.toValue (c : Condition) : Value :=
  table (("kind", text (variantName ConditionKind.variants c.kind)) :: c.fields)

/-- The written form of a rule. -/
def Rule.toValue (r : Rule) : Value :=
  table [("id", text r.id), ("name", text r.name), ("exclusive", bool r.exclusive),
    ("condition", list (r.conditions.map Condition.toValue))]

/-- The written form of a files set. -/
def FilesSet.toValue (s : FilesSet) : Value :=
  table [("name", text s.name), ("description", text s.description),
    ("ignore_known_files", bool s.ignoreKnownFiles),
    ("ignore_unallocated_space", bool s.ignoreUnallocatedSpace),
    ("standard", bool s.standard), ("version", nat s.version.toNat),
    ("rule", list (s.rules.values.map Rule.toValue))]

/-! ## Reading conditions

A condition is taken whole before its fields are looked at, so all of its text has to be usable. -/

/-- What refuses a condition, a rule or a set, as a fault of the data. -/
def refusedOr {α : Type} : Except ConstructionError α → Except DataFault α
  | .ok a => .ok a
  | .error why => .error (.refused why)

/-- A variant within a condition; a table that holds it may have nothing or an empty table. -/
def asInnerVariant {α : Type} (known : List (String × α)) : Value → Except DataFault α :=
  asVariant isNullOrEmpty known

/-- The fields of a condition as they are collected. -/
structure ConditionDraft where
  scope : Option NameScope := none
  pattern : Option String := none
  regex : Option Bool := none
  metaType : Option MetaTypeFilter := none
  mimeType : Option String := none
  comparator : Option SizeComparator := none
  unit : Option SizeUnit := none
  value : Option UInt64 := none
  daysIncluded : Option UInt32 := none

/-- Adds a field to a draft. -/
def ConditionDraft.set (name : String) (v : Value) (d : ConditionDraft) :
    Except DataFault ConditionDraft :=
  match name with
  | "scope" => (fill d.scope (asInnerVariant NameScope.variants v)).map ({ d with scope := · })
  | "pattern" => (fill d.pattern v.asText).map ({ d with pattern := · })
  | "regex" => (fill d.regex v.asBool).map ({ d with regex := · })
  | "meta_type" =>
    (fill d.metaType (asInnerVariant MetaTypeFilter.variants v)).map ({ d with metaType := · })
  | "mime_type" => (fill d.mimeType v.asText).map ({ d with mimeType := · })
  | "comparator" =>
    (fill d.comparator (asInnerVariant SizeComparator.variants v)).map ({ d with comparator := · })
  | "unit" => (fill d.unit (asInnerVariant SizeUnit.variants v)).map ({ d with unit := · })
  | "value" => (fill d.value v.asWord64).map ({ d with value := · })
  | "days_included" => (fill d.daysIncluded v.asWord32).map ({ d with daysIncluded := · })
  | _ => .ok d

/-- The names of the fields that a condition of a kind has. -/
def ConditionKind.fieldNames : ConditionKind → List String
  | .name => ["scope", "pattern", "regex"]
  | .metaType => ["meta_type"]
  | .parentPath => ["pattern", "regex"]
  | .mimeType => ["mime_type"]
  | .fileSize => ["comparator", "unit", "value"]
  | .date => ["days_included"]

/-- The condition of a kind that the collected fields describe. -/
def Condition.ofFields (kind : ConditionKind) (c : Collected ConditionDraft) :
    Except DataFault Condition := do
  let d := c.draft
  match kind with
  | .name =>
    let scope ← c.require "scope" d.scope
    let pattern ← c.require "pattern" d.pattern
    (refusedOr (NameCondition.build scope pattern (d.regex.getD false))).map .name
  | .metaType => (c.require "meta_type" d.metaType).map .metaType
  | .parentPath =>
    let pattern ← c.require "pattern" d.pattern
    (refusedOr (ParentPathCondition.build pattern (d.regex.getD false))).map .parentPath
  | .mimeType =>
    let mimeType ← c.require "mime_type" d.mimeType
    (refusedOr (MimeTypeCondition.build mimeType)).map .mimeType
  | .fileSize =>
    let comparator ← c.require "comparator" d.comparator
    let unit ← c.require "unit" d.unit
    let value ← c.require "value" d.value
    (refusedOr (FileSizeCondition.build comparator unit value)).map .fileSize
  | .date => (c.require "days_included" d.daysIncluded).map .date

/-- Reads the kind of a condition. -/
def readKind (v : Value) : Except DataFault ConditionKind := do
  variantOf ConditionKind.variants (← v.asText)

/-- Takes the kind out of the fields of a condition. -/
def splitKind (kind : Option ConditionKind) :
    List (String × Value) → Except DataFault (ConditionKind × List (String × Value))
  | [] =>
    match kind with
    | some kind => .ok (kind, [])
    | none => .error (.missingField "kind")
  | (name, v) :: rest =>
    if v.isNameless then .error .malformed
    else if name = "kind" then do
      splitKind (← fill kind (readKind v)) rest
    else if v.isWhole then do
      let (kind, others) ← splitKind kind rest
      .ok (kind, (name, v) :: others)
    else .error .malformed

/-- Reads the content of a condition of a kind. -/
def Condition.ofContent (kind : ConditionKind) (content : Value) : Except DataFault Condition := do
  let format : RecordFormat ConditionDraft := ⟨kind.fieldNames, ConditionDraft.set⟩
  Condition.ofFields kind (← collect format (.error .mismatch) {} content)

/-- Reads a condition. -/
def Condition.ofValue : Value → Except DataFault Condition
  | table fields => do
    let (kind, others) ← splitKind none fields
    Condition.ofContent kind (table others)
  | list [] => .error (.missingField "kind")
  | list (first :: items) => do
    let kind ← readKind first
    if areWhole items then Condition.ofContent kind (list items) else .error .malformed
  | moment _ => .error (.missingField "kind")
  | v => .error v.otherType

/-! ## Reading rules and sets

`surplus` is what a format makes of items beyond the last field of a record that is written as a
list. -/

/-- The fields of a rule as they are collected. -/
structure RuleDraft where
  id : Option String := none
  name : Option String := none
  exclusive : Option Bool := none
  conditions : Option (List Condition) := none

/-- Adds a field to a draft. -/
def RuleDraft.set (name : String) (v : Value) (d : RuleDraft) : Except DataFault RuleDraft :=
  match name with
  | "id" => (fill d.id v.asText).map ({ d with id := · })
  | "name" => (fill d.name v.asText).map ({ d with name := · })
  | "exclusive" => (fill d.exclusive v.asBool).map ({ d with exclusive := · })
  | "condition" => (fill d.conditions (v.asList Condition.ofValue)).map ({ d with conditions := · })
  | _ => .ok d

/-- Reads a rule. -/
def Rule.ofValue (surplus : Except DataFault Unit) (v : Value) : Except DataFault Rule := do
  let c ← collect ⟨["id", "name", "exclusive", "condition"], RuleDraft.set⟩ surplus {} v
  let id ← c.require "id" c.draft.id
  let name ← c.require "name" c.draft.name
  refusedOr (Rule.build id name (c.draft.conditions.getD []) (c.draft.exclusive.getD false))

/-- The fields of a files set as they are collected. -/
structure SetDraft where
  name : Option String := none
  description : Option String := none
  ignoreKnownFiles : Option Bool := none
  ignoreUnallocatedSpace : Option Bool := none
  standard : Option Bool := none
  version : Option UInt32 := none
  rules : Option (List Rule) := none

/-- Adds a field to a draft. -/
def SetDraft.set (surplus : Except DataFault Unit) (name : String) (v : Value) (d : SetDraft) :
    Except DataFault SetDraft :=
  match name with
  | "name" => (fill d.name v.asText).map ({ d with name := · })
  | "description" => (fill d.description v.asText).map ({ d with description := · })
  | "ignore_known_files" =>
    (fill d.ignoreKnownFiles v.asBool).map ({ d with ignoreKnownFiles := · })
  | "ignore_unallocated_space" =>
    (fill d.ignoreUnallocatedSpace v.asBool).map ({ d with ignoreUnallocatedSpace := · })
  | "standard" => (fill d.standard v.asBool).map ({ d with standard := · })
  | "version" => (fill d.version v.asWord32).map ({ d with version := · })
  | "rule" => (fill d.rules (v.asList (Rule.ofValue surplus))).map ({ d with rules := · })
  | _ => .ok d

/-- The names of the fields of a files set. -/
def FilesSet.fieldNames : List String :=
  ["name", "description", "ignore_known_files", "ignore_unallocated_space", "standard", "version",
   "rule"]

/-- Reads a files set. -/
def FilesSet.ofValue (surplus : Except DataFault Unit) (v : Value) : Except DataFault FilesSet := do
  let c ← collect ⟨FilesSet.fieldNames, SetDraft.set surplus⟩ surplus {} v
  let name ← c.require "name" c.draft.name
  let d := c.draft
  refusedOr (FilesSet.build {
    name, description := d.description.getD ""
    ignoreKnownFiles := d.ignoreKnownFiles.getD false
    ignoreUnallocatedSpace := d.ignoreUnallocatedSpace.getD false
    rules := d.rules.getD [], standard := d.standard.getD false
    version := d.version.getD 0 })

end FileTriage
