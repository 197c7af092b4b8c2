/-
Definitions do not depend on the order in which they are written.

The conditions of a rule are put in evaluation order, the rules of a set stand under their ids, and
the sets stand under their names.  At each level the constructor accepts what it accepts in any
order, and gives the same for it, so a document and a rearranged one are read alike.
-/
import FileTriage.Proofs.Data.Order
import FileTriage.Proofs.Definitions.Importing

namespace FileTriage

open Value (ListField RecordRearranged nat)

theorem Alike.refusedOr {α : Type} {x y : Except ConstructionError α} (h : Alike Eq x y) :
    Alike Eq (refusedOr x) (refusedOr y) := by
  cases h with
  | refused e e' => exact .refused _ _
  | accepted h => exact .accepted h

theorem perm_getD {α : Type} {slot slot' : Option (List α)} (h : Option.Rel List.Perm slot slot') :
    (slot.getD []).Perm (slot'.getD []) := by
  cases h with
  | some h => exact h
  | none => exact .refl _

/-! ## Rules -/

/-- A rule with its conditions in another order. -/
def RuleRearranged : Value → Value → Prop :=
  RecordRearranged ["id", "name", "exclusive", "condition"] "condition" Eq

/-- Conditions fill a slot of their own. -/
theorem RuleDraft.listField :
    ListField ⟨["id", "name", "exclusive", "condition"], RuleDraft.set⟩ "condition" Condition.ofValue
      fun conditions d => { d with conditions } where
  mem := by decide
  own := fun v slot d => rfl
  other := by
    intro n v slot d hn
    show RuleDraft.set n v _ = (RuleDraft.set n v d).map _
    unfold RuleDraft.set
    split
    case h_4 => exact absurd rfl hn
    case h_5 => rfl
    all_goals rw [Value.map_map]

theorem Rule.alike_build {id name : String} {exclusive : Bool} {given given' : List Condition}
    (h : given.Perm given') :
    Alike Eq (Rule.build id name given exclusive) (Rule.build id name given' exclusive) := by
  refine .of_eq_ok_iff fun r => ?_
  rw [build_eq_ok_iff, build_eq_ok_iff, h.congr_left]

/-- A rule is read alike when its conditions come in another order. -/
theorem Rule.alike_ofValue (surplus : Except DataFault Unit) {v v' : Value}
    (h : RuleRearranged v v') : Alike Eq (Rule.ofValue surplus v) (Rule.ofValue surplus v') := by
  have hread : ∀ w w', w = w' → Alike Eq (Condition.ofValue w) (Condition.ofValue w') := by
    rintro w _ rfl
    exact .same _
  have hcollect := RuleDraft.listField.alike_collect hread h surplus (.mk {} .none)
  refine hcollect.bind ?_
  rintro ⟨_, missing⟩ ⟨_, missing'⟩ ⟨⟨d, hconditions⟩, hmissing⟩
  cases hmissing
  refine .bind_same _ fun id => ?_
  refine .bind_same _ fun name => ?_
  exact (Rule.alike_build (perm_getD hconditions)).refusedOr

/-! ## Sets -/

/-- A set with its rules in another order, and the conditions of each. -/
def SetRearranged : Value → Value → Prop :=
  RecordRearranged FilesSet.fieldNames "rule" RuleRearranged

/-- Rules fill a slot of their own. -/
theorem SetDraft.listField (surplus : Except DataFault Unit) :
    ListField ⟨FilesSet.fieldNames, SetDraft.set surplus⟩ "rule" (Rule.ofValue surplus)
      fun rules d => { d with rules } where
  mem := by
    show "rule" ∈ FilesSet.fieldNames
    decide
  own := fun v slot d => rfl
  other := by
    intro n v slot d hn
    show SetDraft.set surplus n v _ = (SetDraft.set surplus n v d).map _
    unfold SetDraft.set
    split
    case h_7 => exact absurd rfl hn
    case h_8 => rfl
    all_goals rw [Value.map_map]

theorem FilesSet.alike_build (d : FilesSet.Draft) {given given' : List Rule}
    (h : given.Perm given') :
    Alike Eq (FilesSet.build { d with rules := given })
      (FilesSet.build { d with rules := given' }) := by
  refine .of_eq_ok_iff fun s => ?_
  rw [build_eq_ok_iff, build_eq_ok_iff]
  simp only [FilesSet.draft, FilesSet.Draft.mk.injEq, h.congr_left]

/-- A set is read alike when its rules come in another order. -/
theorem FilesSet.alike_ofValue (surplus : Except DataFault Unit) {v v' : Value}
    (h : SetRearranged v v') :
    Alike Eq (FilesSet.ofValue surplus v) (FilesSet.ofValue surplus v') := by
  have hcollect := (SetDraft.listField surplus).alike_collect
    (fun w w' => Rule.alike_ofValue surplus) h surplus (.mk {} .none)
  refine hcollect.bind ?_
  rintro ⟨_, missing⟩ ⟨_, missing'⟩ ⟨⟨d, hrules⟩, hmissing⟩
  cases hmissing
  refine .bind_same _ fun name => ?_
  let parts : FilesSet.Draft := {
    name, description := d.description.getD ""
    ignoreKnownFiles := d.ignoreKnownFiles.getD false
    ignoreUnallocatedSpace := d.ignoreUnallocatedSpace.getD false
    standard := d.standard.getD false, version := d.version.getD 0 }
  exact (FilesSet.alike_build parts (perm_getD hrules)).refusedOr

/-! ## Documents -/

namespace Definitions

/-- A document with its sets in another order, the rules of each, and the conditions of each. -/
def DocumentRearranged : Value → Value → Prop :=
  RecordRearranged ["format_version", "set"] "set" SetRearranged

/-- Sets fill a slot of their own. -/
theorem DocumentDraft.listField :
    ListField ⟨["format_version", "set"], DocumentDraft.set⟩ "set" (FilesSet.ofValue (.ok ()))
      fun sets d => { d with sets } where
  mem := by decide
  own := fun v slot d => rfl
  other := by
    intro n v slot d hn
    show DocumentDraft.set n v _ = (DocumentDraft.set n v d).map _
    unfold DocumentDraft.set
    split
    case h_2 => exact absurd rfl hn
    case h_3 => rfl
    all_goals rw [Value.map_map]

theorem alike_readDocument {v v' : Value} (h : DocumentRearranged v v') :
    Alike (fun r r' => r.1 = r'.1 ∧ r.2.Perm r'.2) (readDocument v) (readDocument v') := by
  have hcollect := DocumentDraft.listField.alike_collect
    (fun w w' => FilesSet.alike_ofValue (.ok ())) h (.ok ()) (.mk {} .none)
  refine hcollect.bind ?_
  rintro ⟨_, missing⟩ ⟨_, missing'⟩ ⟨⟨d, hsets⟩, hmissing⟩
  cases hmissing
  refine .bind_same _ fun version => ?_
  exact .accepted ⟨rfl, perm_getD hsets⟩

/-- The definitions of a document that has been parsed. -/
def ofDocument (v : Value) : Except DecodeError Definitions :=
  match readDocument v with
  | .error fault => .error (.tomlData fault)
  | .ok (version, sets) =>
    if formatVersion < version then .error (.unsupportedVersion version) else byName sets

/-- A text that is not blank is parsed, and the document is read. -/
theorem ofTomlText_of_read {text : String} {v : Value} (hblank : Text.allBlank text = false)
    (hread : Toml.read text = some v) : ofTomlText text = ofDocument v := by
  rw [ofTomlText, hblank, if_neg Bool.false_ne_true, hread]
  rfl

theorem alike_byName {given given' : List FilesSet} (h : given.Perm given') :
    Alike Eq (byName given) (byName given') := by
  refine .of_eq_ok_iff fun sets => ?_
  rw [byName_eq_ok_iff, byName_eq_ok_iff, h.congr_left]

theorem alike_ofDocument {v v' : Value} (h : DocumentRearranged v v') :
    Alike Eq (ofDocument v) (ofDocument v') := by
  have hdocument := alike_readDocument h
  rw [ofDocument, ofDocument]
  generalize readDocument v = document at hdocument
  generalize readDocument v' = document' at hdocument
  cases hdocument with
  | refused e e' => exact .refused _ _
  | @accepted r r' hr =>
    obtain ⟨version, sets⟩ := r
    obtain ⟨_, sets'⟩ := r'
    obtain ⟨rfl, hsets⟩ := hr
    dsimp only
    split
    · exact .refused _ _
    · exact alike_byName hsets

/-- Two readers of definitions both refuse, or both give the same definitions, in which every file
satisfies the same rules at every time. -/
structure SameDecoding (x y : Except DecodeError Definitions) : Prop where
  outcome : ((∃ e, x = .error e) ∧ ∃ e, y = .error e) ∨ ∃ sets, x = .ok sets ∧ y = .ok sets
  satisfied : ∀ sets sets', x = .ok sets → y = .ok sets' → ∀ key f now,
    (sets.get? key).map (·.firstSatisfiedRuleName? f now) =
      (sets'.get? key).map (·.firstSatisfiedRuleName? f now)

theorem sameDecoding_of_alike {x y : Except DecodeError Definitions} (h : Alike Eq x y) :
    SameDecoding x y where
  outcome := h.eq_cases
  satisfied := by
    rintro sets sets' rfl rfl key f now
    cases h with
    | accepted heq => rw [heq]

/-- A document and a rearranged one are both refused, or both give the same definitions.  So do two
texts of which they are the documents. -/
theorem decoding_ignores_order {v v' : Value} (h : DocumentRearranged v v') :
    SameDecoding (ofDocument v) (ofDocument v') ∧
      ∀ text text', Text.allBlank text = false → Text.allBlank text' = false →
        Toml.read text = some v → Toml.read text' = some v' →
          SameDecoding (ofToml (Text.Utf8.encode text)) (ofToml (Text.Utf8.encode text')) := by
  have halike := alike_ofDocument h
  refine ⟨sameDecoding_of_alike halike, ?_⟩
  intro text text' hblank hblank' hread hread'
  rw [ofToml, ofToml, Text.Utf8.decode_encode, Text.Utf8.decode_encode]
  show SameDecoding (ofTomlText text) (ofTomlText text')
  rw [ofTomlText_of_read hblank hread, ofTomlText_of_read hblank' hread']
  exact sameDecoding_of_alike halike

/-- Definitions are read from their document with its lists in any order. -/
theorem ofDocument_of_rearranged {sets : Definitions} (hnamed : sets.Named) {v : Value}
    (h : DocumentRearranged (.table sets.document) v) : ofDocument v = .ok sets := by
  have hversion : ¬ formatVersion < formatVersion := by decide
  have hdocument : ofDocument (.table sets.document) = .ok sets := by
    rw [ofDocument, readDocument_document]
    dsimp only
    rw [if_neg hversion]
    exact byName_eq_ok_iff.2 ⟨hnamed, .refl _⟩
  rcases (alike_ofDocument h).eq_cases with ⟨⟨e, he⟩, -⟩ | ⟨sets', hsets, hv⟩
  · rw [hdocument] at he
    cases he
  · rw [hdocument] at hsets
    cases hsets
    exact hv

/-! ## A document with its lists turned round -/

/-- A rule with two conditions. -/
def filesRule : Rule where
  id := "x"
  name := "x"
  conditions := [.metaType .files, .date 3]
  id_not_blank := by decide
  name_not_blank := by decide
  conditions_ne_nil := by simp
  ascending := by decide

/-- A rule with one condition. -/
def recentRule : Rule where
  id := "y"
  name := "y"
  conditions := [.date 5]
  id_not_blank := by decide
  name_not_blank := by decide
  conditions_ne_nil := by simp
  ascending := by decide

/-- A set without rules. -/
def emptySet (name : String) (h : Text.allBlank name = false) : FilesSet where
  name := name
  name_not_blank := h
  keyed := FilesSet.keyed_empty

theorem not_allBlank_a : Text.allBlank "a" = false := by decide

/-- A set with both rules. -/
def ruledSet : FilesSet :=
  ((emptySet "a" not_allBlank_a).withRule filesRule).withRule recentRule

/-- A set with rules and one without. -/
def twoSets : Definitions :=
  (NameMap.empty.insert "a" ruledSet).insert "b" (emptySet "b" (by decide))

/-- The document of both sets, each of its lists the other way round. -/
def turnedDocument : Value :=
  .table [("format_version", nat 1), ("set", .list [
    (emptySet "b" (by decide)).toValue,
    .table [("name", .text "a"), ("description", .text ""), ("ignore_known_files", .bool false),
      ("ignore_unallocated_space", .bool false), ("standard", .bool false), ("version", nat 0),
      ("rule", .list [
        recentRule.toValue,
        .table [("id", .text "x"), ("name", .text "x"), ("exclusive", .bool false),
          ("condition", .list [
            (Condition.date 3).toValue, (Condition.metaType .files).toValue])]])]])]

theorem turnedDocument_rearranged :
    DocumentRearranged (.table twoSets.document) turnedDocument := by
  -- the fields before the list of a record are as they were
  have hrule : RuleRearranged filesRule.toValue _ :=
    .table (.cons (.same _) (.cons (.same _) (.cons (.same _) (.cons
      (.own (.list (.swap _ _ _) (.cons rfl (.cons rfl .nil)))) .nil))))
  have hset : SetRearranged ruledSet.toValue _ :=
    .table (.cons (.same _) (.cons (.same _) (.cons (.same _) (.cons (.same _) (.cons (.same _)
      (.cons (.same _) (.cons
        (.own (.list (.swap _ _ _) (.cons (.same _) (.cons hrule .nil)))) .nil)))))))
  exact .table (.cons (.same _) (.cons
    (.own (.list (.swap _ _ _) (.cons (.same _) (.cons hset .nil)))) .nil))

/-- A document with two sets of these names. -/
def namesDocument (first second : String) : Value :=
  .table [("format_version", nat 1),
    ("set", .list [.table [("name", .text first)], .table [("name", .text second)]])]

theorem read_names :
    Toml.read "format_version=1\n[[set]]\nname='a'\n[[set]]\nname='b'\n" =
      some (namesDocument "a" "b") := by
  have htext : "format_version=1\n[[set]]\nname='a'\n[[set]]\nname='b'\n" = String.ofList _ := rfl
  rw [Toml.read, htext, String.toList_ofList]
  rfl

theorem read_turned_names :
    Toml.read "format_version=1\n[[set]]\nname='b'\n[[set]]\nname='a'\n" =
      some (namesDocument "b" "a") := by
  have htext : "format_version=1\n[[set]]\nname='b'\n[[set]]\nname='a'\n" = String.ofList _ := rfl
  rw [Toml.read, htext, String.toList_ofList]
  rfl

/-- A document is read when its lists are turned round, and so is a text. -/
theorem turned_document_reads_alike :
    SameDecoding (ofDocument (.table twoSets.document)) (ofDocument turnedDocument) ∧
      ofDocument turnedDocument = .ok twoSets ∧
      SameDecoding
        (ofToml (Text.Utf8.encode "format_version=1\n[[set]]\nname='a'\n[[set]]\nname='b'\n"))
        (ofToml (Text.Utf8.encode "format_version=1\n[[set]]\nname='b'\n[[set]]\nname='a'\n")) := by
  have hnames : DocumentRearranged (namesDocument "a" "b") (namesDocument "b" "a") :=
    .table (.cons (.same _) (.cons
      (.own (.list (.swap _ _ _) (.cons (.same _) (.cons (.same _) .nil)))) .nil))
  refine ⟨(decoding_ignores_order turnedDocument_rearranged).1,
    ofDocument_of_rearranged (by decide) turnedDocument_rearranged, ?_⟩
  exact (decoding_ignores_order hnames).2 _ _ (by decide) (by decide) read_names read_turned_names

end Definitions

end FileTriage
