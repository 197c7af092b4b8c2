/-
Definitions that have been written as TOML are read back.

The document of a collection is a table of tables of tables, and at each level the scalars come
first and one list of tables last.  So the document is shaped, it can be written if its integers
fit, and the only integers that may not fit are the values of size conditions.  What is read back
is the same table, and the sets in it stand under the same names as before.
-/
import FileTriage.Definitions.Format
import FileTriage.Proofs.Definitions.Basic
import FileTriage.Proofs.Rules.Form
import FileTriage.Proofs.Text.Utf8
import FileTriage.Proofs.Toml.RoundTrip

namespace FileTriage

open Toml (Shaped isScalar Fits FieldsFit ItemsFit itemsFit_iff fieldsFit_iff)

/-! ## Records are shaped -/

/-- Scalars under distinct names are shaped. -/
theorem shaped_of_scalars (depth : Nat) {fields : List (String × Value)}
    (hkeys : fields.Pairwise fun f g => g.1 ≠ f.1) (hscalar : ∀ f ∈ fields, isScalar f.2 = true) :
    Shaped depth fields := by
  induction fields with
  | nil => exact .nil depth
  | cons f fields ih =>
    obtain ⟨hf, hrest⟩ := List.pairwise_cons.1 hkeys
    have htail := ih hrest fun g hg => hscalar g (List.mem_cons_of_mem _ hg)
    exact .pair hf (hscalar f List.mem_cons_self) htail

/-- Scalars and one list of tables after them are shaped. -/
theorem shaped_of_scalars_list {depth : Nat} {fields : List (String × Value)} {key : String}
    {tables : List (List (String × Value))} (hkeys : fields.Pairwise fun f g => g.1 ≠ f.1)
    (hscalar : ∀ f ∈ fields, isScalar f.2 = true) (hkey : ∀ f ∈ fields, key ≠ f.1)
    (htables : ∀ t ∈ tables, Shaped depth t) :
    Shaped (depth + 1) (fields ++ [(key, .list (tables.map .table))]) := by
  induction fields with
  | nil =>
    by_cases hne : tables = []
    · -- a list of no table is a scalar
      subst hne
      exact .pair (by simp) rfl (.nil _)
    · exact .list (by simp) hne (by simp) htables (.nil _)
  | cons f fields ih =>
    obtain ⟨hf, hrest⟩ := List.pairwise_cons.1 hkeys
    have htail := ih hrest (fun g hg => hscalar g (List.mem_cons_of_mem _ hg))
      fun g hg => hkey g (List.mem_cons_of_mem _ hg)
    refine .pair ?_ (hscalar f List.mem_cons_self) htail
    intro g hg
    rcases List.mem_append.1 hg with hg | hg
    · exact hf g hg
    · rw [List.mem_singleton.1 hg]
      exact hkey f List.mem_cons_self

/-- All fields of a condition. -/
def Condition.allFields (c : Condition) : List (String × Value) :=
  ("kind", .text (Value.variantName ConditionKind.variants c.kind)) :: c.fields

/-- The fields of a rule. -/
def Rule.fields (r : Rule) : List (String × Value) :=
  [("id", .text r.id), ("name", .text r.name), ("exclusive", .bool r.exclusive)] ++
    [("condition", .list ((r.conditions.map Condition.allFields).map .table))]

/-- The fields of a files set. -/
def FilesSet.fields (s : FilesSet) : List (String × Value) :=
  [("name", .text s.name), ("description", .text s.description),
    ("ignore_known_files", .bool s.ignoreKnownFiles),
    ("ignore_unallocated_space", .bool s.ignoreUnallocatedSpace),
    ("standard", .bool s.standard), ("version", Value.nat s.version.toNat)] ++
    [("rule", .list ((s.rules.values.map Rule.fields).map .table))]

theorem Rule.toValue_eq (r : Rule) : r.toValue = .table r.fields := by
  rw [Rule.fields, List.map_map]
  rfl

theorem FilesSet.toValue_eq (s : FilesSet) : s.toValue = .table s.fields := by
  rw [FilesSet.fields, List.map_map]
  have hrules : s.rules.values.map (Value.table ∘ Rule.fields) = s.rules.values.map Rule.toValue :=
    List.map_congr_left fun r _ => r.toValue_eq.symm
  rw [hrules]
  rfl

theorem Definitions.document_eq (sets : Definitions) :
    sets.document = [("format_version", Value.nat formatVersion.toNat)] ++
      [("set", .list ((sets.values.map FilesSet.fields).map .table))] := by
  have hsets : sets.values.map (Value.table ∘ FilesSet.fields) = sets.values.map FilesSet.toValue :=
    List.map_congr_left fun s _ => s.toValue_eq.symm
  rw [List.map_map, hsets]
  rfl

theorem Condition.shaped (depth : Nat) (c : Condition) : Shaped depth c.allFields := by
  apply shaped_of_scalars
  · cases c <;> simp [Condition.allFields, Condition.fields]
  · cases c <;> simp [Condition.allFields, Condition.fields, isScalar, Value.nat]

theorem Rule.shaped (depth : Nat) (r : Rule) : Shaped (depth + 1) r.fields := by
  apply shaped_of_scalars_list
  · simp
  · simp [isScalar]
  · simp
  · intro t ht
    obtain ⟨c, -, rfl⟩ := List.mem_map.1 ht
    exact c.shaped depth

theorem FilesSet.shaped (depth : Nat) (s : FilesSet) : Shaped (depth + 2) s.fields := by
  apply shaped_of_scalars_list
  · simp
  · simp [isScalar, Value.nat]
  · simp
  · intro t ht
    obtain ⟨r, -, rfl⟩ := List.mem_map.1 ht
    exact r.shaped depth

theorem Definitions.shaped (depth : Nat) (sets : Definitions) :
    Shaped (depth + 3) sets.document := by
  rw [document_eq]
  apply shaped_of_scalars_list
  · simp
  · simp [isScalar, Value.nat]
  · simp
  · intro t ht
    obtain ⟨s, -, rfl⟩ := List.mem_map.1 ht
    exact s.shaped depth

/-! ## Integers -/

namespace Definitions

/-- Every size that a condition compares with has a place in a signed number of 64 bits. -/
def SizesFit (sets : Definitions) : Prop :=
  ∀ s ∈ sets.values, ∀ r ∈ s.rules.values, ∀ c, Condition.fileSize c ∈ r.conditions →
    c.value.toNat ≤ Nat.pow 2 63 - 1

end Definitions

theorem fits_word32 (w : UInt32) : Fits (Value.nat w.toNat) := by
  have hlt := w.toNat_lt
  show Toml.isInteger (w.toNat : Int) = true
  simp only [Toml.isInteger, Bool.and_eq_true, decide_eq_true_eq]
  omega

theorem fits_word64_iff (w : UInt64) : Fits (Value.nat w.toNat) ↔ w.toNat ≤ Nat.pow 2 63 - 1 := by
  have hbound : Nat.pow 2 63 - 1 = 9223372036854775807 := by decide
  rw [hbound]
  show Toml.isInteger (w.toNat : Int) = true ↔ _
  simp only [Toml.isInteger, Bool.and_eq_true, decide_eq_true_eq]
  omega

/-- A list of tables fits if each of them does. -/
theorem fits_tables_iff {α : Type} {write : α → List (String × Value)} {items : List α} :
    Fits (.list ((items.map write).map .table)) ↔ ∀ a ∈ items, FieldsFit (write a) := by
  rw [Fits, itemsFit_iff, List.map_map]
  simp [Fits]

theorem Condition.fieldsFit_iff (c : Condition) :
    FieldsFit c.allFields ↔ ∀ size, c = .fileSize size → size.value.toNat ≤ Nat.pow 2 63 - 1 := by
  cases c with
  | fileSize size =>
    simp [Condition.allFields, Condition.fields, FieldsFit, Fits, fits_word64_iff]
  | date days =>
    simp [Condition.allFields, Condition.fields, FieldsFit, Fits, fits_word32]
  | _ => simp [Condition.allFields, Condition.fields, FieldsFit, Fits]

theorem Rule.fieldsFit_iff (r : Rule) :
    FieldsFit r.fields ↔ ∀ c, .fileSize c ∈ r.conditions → c.value.toNat ≤ Nat.pow 2 63 - 1 := by
  have hlist : FieldsFit r.fields ↔ ∀ c ∈ r.conditions, FieldsFit c.allFields := by
    rw [← fits_tables_iff]
    simp [Rule.fields, FieldsFit, Fits]
  rw [hlist]
  constructor
  · intro h c hc
    exact (Condition.fieldsFit_iff _).1 (h _ hc) c rfl
  · intro h c hc
    rw [Condition.fieldsFit_iff]
    rintro size rfl
    exact h size hc

theorem FilesSet.fieldsFit_iff (s : FilesSet) :
    FieldsFit s.fields ↔ ∀ r ∈ s.rules.values, ∀ c, .fileSize c ∈ r.conditions →
      c.value.toNat ≤ Nat.pow 2 63 - 1 := by
  have hlist : FieldsFit s.fields ↔ ∀ r ∈ s.rules.values, FieldsFit r.fields := by
    rw [← fits_tables_iff]
    simp [FilesSet.fields, FieldsFit, Fits, fits_word32]
  rw [hlist]
  exact forall₂_congr fun r _ => r.fieldsFit_iff

namespace Definitions

theorem fieldsFit_document_iff (sets : Definitions) :
    FieldsFit sets.document ↔ sets.SizesFit := by
  have hlist : FieldsFit sets.document ↔ ∀ s ∈ sets.values, FieldsFit s.fields := by
    rw [document_eq, ← fits_tables_iff]
    simp [FieldsFit, Fits, fits_word32]
  rw [hlist]
  exact forall₂_congr fun s _ => s.fieldsFit_iff

/-! ## The round trip -/

theorem checkKeys_eq_ok_iff {sets : Definitions} : sets.checkKeys = .ok () ↔ sets.Named := by
  rw [← misplaced?_eq_none_iff, checkKeys]
  cases sets.misplaced? with
  | none => simp
  | some e => simp

/-- A collection is written if its sets stand under their names and its document can be
written. -/
theorem toToml_eq_ok_iff {sets : Definitions} {text : String} :
    sets.toToml = .ok text ↔ sets.Named ∧ Toml.write? sets.document = some text := by
  rw [← checkKeys_eq_ok_iff, toToml]
  cases hkeys : sets.checkKeys with
  | error e =>
    constructor
    · intro h
      cases h
    · rintro ⟨h, -⟩
      cases h
  | ok u =>
    cases Toml.write? sets.document with
    | none => simp [bind, Except.bind]
    | some written => simp [bind, Except.bind]

/-- The document of a collection has its version and its sets. -/
theorem DocumentDraft.set_version (v : Value) (d : DocumentDraft) :
    DocumentDraft.set "format_version" v d =
      (Value.fill d.version v.asWord32).map ({ d with version := · }) := rfl

theorem readDocument_document (sets : Definitions) :
    readDocument (.table sets.document) = .ok (formatVersion, sets.values) := by
  have hversion : DocumentDraft.set "format_version" (Value.nat formatVersion.toNat) {} =
      .ok { version := some formatVersion } := by
    rw [DocumentDraft.set_version, Value.asWord32_nat]
    rfl
  have hsets : DocumentDraft.set "set" (.list (sets.values.map FilesSet.toValue))
      { version := some formatVersion } =
        .ok { version := some formatVersion, sets := some sets.values } := by
    show (Value.fill none ((Value.list (sets.values.map FilesSet.toValue)).asList
      (FilesSet.ofValue (.ok ())))).map _ = _
    rw [Value.asList_map fun s _ => s.ofValue_toValue (.ok ())]
    rfl
  have hdraft : sets.document.foldlM
      (Value.RecordFormat.addField ⟨["format_version", "set"], DocumentDraft.set⟩) {} =
        .ok { version := some formatVersion, sets := some sets.values } := by
    rw [document, Value.foldlM_addField_cons rfl rfl hversion,
      Value.foldlM_addField_cons rfl rfl hsets]
    rfl
  rw [readDocument, Value.collect_table hdraft]
  rfl

/-- What is written starts with the name of the first field, which is not blank. -/
theorem allBlank_of_toToml {sets : Definitions} {text : String} (h : sets.toToml = .ok text) :
    Text.allBlank text = false := by
  have hwrite := (toToml_eq_ok_iff.1 h).2
  rw [Toml.write?, Option.map_eq_some_iff] at hwrite
  obtain ⟨⟨pairs, tables⟩, htexts, rfl⟩ := hwrite
  rw [document, Toml.fieldTexts?_scalar _ _ (by rfl)] at htexts
  simp only [Option.bind_eq_bind, Option.bind_eq_some_iff] at htexts
  obtain ⟨version, -, ⟨pairs', tables'⟩, -, heq⟩ := htexts
  cases heq
  -- the version comes first, so the text starts with its key
  have hkey : (Toml.keyText "format_version").toList = 'f' :: "ormat_version".toList := by decide
  have hf : Text.isBlank 'f' = false := by decide
  simp [Text.allBlank, hkey, hf]

/-- The text of a document of the current version is read as its sets under their names. -/
theorem ofToml_encode_of_read {text : String} {v : Value} {sets : List FilesSet}
    (hblank : Text.allBlank text = false) (hread : Toml.read text = some v)
    (hdocument : readDocument v = .ok (formatVersion, sets)) :
    ofToml (Text.Utf8.encode text) = byName sets := by
  have hversion : ¬ formatVersion < formatVersion := by decide
  rw [ofToml, Text.Utf8.decode_encode]
  show ofTomlText text = _
  rw [ofTomlText, hblank, if_neg (by decide), hread]
  simp only [hdocument, if_neg hversion]

/-- A collection that has been written is read back. -/
theorem ofToml_encode_of_toToml {sets : Definitions} {text : String} (h : sets.toToml = .ok text) :
    ofToml (Text.Utf8.encode text) = .ok sets := by
  obtain ⟨hnamed, hwrite⟩ := toToml_eq_ok_iff.1 h
  -- a document is nested three deep, and 76 more would be allowed
  have hread := (sets.shaped 76).read_write? hwrite
  rw [ofToml_encode_of_read (allBlank_of_toToml h) hread (readDocument_document sets), byName,
    ofSets_values hnamed]

/-- The TOML round trip over the whole format.  A collection is written if and only if its sets
stand under their own names and its sizes fit; what is written is read back as the same collection,
with or without the older format to fall back on, and written again it gives the same text. -/
theorem toToml_roundTrip (sets : Definitions) :
    ((∃ text, sets.toToml = .ok text) ↔ sets.Named ∧ sets.SizesFit) ∧
    ∀ text, sets.toToml = .ok text →
      ofToml (Text.Utf8.encode text) = .ok sets ∧
      ofBytes (Text.Utf8.encode text) = .ok sets ∧
      ∀ again, ofToml (Text.Utf8.encode text) = .ok again ∨
        ofBytes (Text.Utf8.encode text) = .ok again → again.toToml = .ok text := by
  constructor
  · rw [← fieldsFit_document_iff, ← (sets.shaped 76).exists_write?_iff]
    simp only [toToml_eq_ok_iff, exists_and_left]
  · intro text htext
    have hread := ofToml_encode_of_toToml htext
    have hbytes : ofBytes (Text.Utf8.encode text) = .ok sets := by rw [ofBytes, hread]
    refine ⟨hread, hbytes, ?_⟩
    rintro again (hagain | hagain)
    · rw [hread] at hagain
      cases hagain
      exact htext
    · rw [hbytes] at hagain
      cases hagain
      exact htext

end Definitions

end FileTriage
