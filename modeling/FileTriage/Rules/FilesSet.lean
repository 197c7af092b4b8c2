/-
Files sets: named, versioned collections of rules.

The rules of a set are kept and evaluated in the order of their ids, and every edit gives a new
set, so a set that has been handed to a job does not change under it.
-/
import FileTriage.NameMap
import FileTriage.Rules.Rule

namespace FileTriage

/-- A named collection of rules. -/
structure FilesSet where
  name : String
  description : String := ""
  ignoreKnownFiles : Bool := false
  ignoreUnallocatedSpace : Bool := false
  /-- The rules under their ids. -/
  rules : NameMap Rule := .empty
  /-- Whether the set is shipped, and not a user's own. -/
  standard : Bool := false
  version : UInt32 := 0
  name_not_blank : Text.allBlank name = false
  keyed : ∀ e ∈ rules.entries, e.2.id = e.1

/-- Sets are equal if their names, descriptions, flags, versions and rules are. -/
instance : DecidableEq FilesSet := fun a b =>
  decidable_of_iff
    (a.name = b.name ∧ a.description = b.description ∧ a.ignoreKnownFiles = b.ignoreKnownFiles ∧
      a.ignoreUnallocatedSpace = b.ignoreUnallocatedSpace ∧ a.rules = b.rules ∧
      a.standard = b.standard ∧ a.version = b.version)
    (by cases a; cases b; simp)

namespace FilesSet

/-- A map of rules under their ids. -/
abbrev Rules := { m : NameMap Rule // ∀ e ∈ m.entries, e.2.id = e.1 }

/-- Rules with one more, in the place of the rule with the same id. -/
def Rules.add (rules : Rules) (rule : Rule) : Rules :=
  ⟨rules.1.insert rule.id rule, fun e he => by
    rcases NameMap.mem_insertEntry he with rfl | he
    · rfl
    · exact rules.2 e he⟩

/-- Rules in any order under their ids; the first id that occurs twice is refused. -/
def Rules.ofList (set : String) (rules : List Rule) : Except ConstructionError Rules :=
  rules.foldlM (fun (m : Rules) rule =>
    if m.1.contains rule.id then .error (.duplicateRuleId set rule.id) else .ok (m.add rule))
    ⟨.empty, by simp [NameMap.empty]⟩

/-- What a set is made of, before its name and its rules have been looked at. -/
structure Draft where
  name : String
  description : String := ""
  ignoreKnownFiles : Bool := false
  ignoreUnallocatedSpace : Bool := false
  rules : List Rule := []
  standard : Bool := false
  version : UInt32 := 0

/-- The set of a draft, or why there is none. -/
def build (d : Draft) : Except ConstructionError FilesSet :=
  if h : Text.allBlank d.name = false then do
    let rules ← Rules.ofList d.name d.rules
    .ok { name := d.name, description := d.description, ignoreKnownFiles := d.ignoreKnownFiles
          ignoreUnallocatedSpace := d.ignoreUnallocatedSpace, rules := rules.1
          standard := d.standard, version := d.version, name_not_blank := h, keyed := rules.2 }
  else .error (.emptyName .filesSet)

/-! ## Edits -/

/-- The set with a rule added, in the place of the rule with the same id. -/
def withRule (s : FilesSet) (rule : Rule) : FilesSet :=
  let rules := Rules.add ⟨s.rules, s.keyed⟩ rule
  { s with rules := rules.1, keyed := rules.2 }

/-- The set without the rule of an id. -/
def withoutRule (s : FilesSet) (id : String) : FilesSet :=
  { s with
    rules := s.rules.erase id
    keyed := fun e he => s.keyed e (List.mem_filter.1 he).1 }

/-- The set under another name that is not blank. -/
def withName (s : FilesSet) (name : String) (h : Text.allBlank name = false) : FilesSet :=
  { s with name, name_not_blank := h }

/-- The set under another name, or why it cannot have it. -/
def renamed (s : FilesSet) (name : String) : Except ConstructionError FilesSet :=
  if h : Text.allBlank name = false then .ok (s.withName name h)
  else .error (.emptyName .filesSet)

/-- The set with another version. -/
def withVersion (s : FilesSet) (version : UInt32) : FilesSet := { s with version }

/-- The set as a shipped one. -/
def asStandard (s : FilesSet) : FilesSet := { s with standard := true }

/-- Whether the set has no rule. -/
def isEmpty (s : FilesSet) : Bool := s.rules.isEmpty

/-! ## Membership -/

/-- Whether the set's policies keep a file out, whatever the rules say. -/
def excludes (s : FilesSet) (f : FileRecord) : Bool :=
  (s.ignoreKnownFiles && f.known = .known) ||
    (s.ignoreUnallocatedSpace && f.fileType.isUnallocatedSpace)

/-- The name of the first rule, in the order of ids, that the file satisfies, if the file belongs
to the set. -/
def firstSatisfiedRuleName? (s : FilesSet) (f : FileRecord) (now : Instant) : Option String :=
  if s.excludes f then none
  else (s.rules.values.find? fun rule => rule.isSatisfiedAt f now).map (·.name)

end FilesSet

end FileTriage
