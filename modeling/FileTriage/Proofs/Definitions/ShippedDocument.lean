/-
The shipped sets are those of their document.

The document is read once, to a value; from there on it is followed record by record.  The record of
a rule is read as what is built of its conditions, and the record of a set as what is built of its
rules, so that each shipped set is the one that its record describes (`Describes`).
-/
import Mathlib
import FileTriage.Proofs.Definitions.Shipped
import FileTriage.Proofs.Definitions.TomlRoundTrip

namespace FileTriage.Definitions

open Value (text bool nat list table fill mapM_cons_of_ok foldlM_addField_cons collect_table
  bind_eq_ok_iff)

/-- The document of the shipped sets. -/
def shippedSetsText : String :=
  r#"# Interesting files sets shipped with triageset.
# Bump `version` on every change so existing installations upgrade.
format_version = 1

[[set]]
name = "Cloud Storage"
description = "Desktop clients and local caches of cloud storage services"
ignore_known_files = true
ignore_unallocated_space = true
standard = true
version = 1

[[set.rule]]
id = "cloud-storage-01-clients"
name = "Cloud storage client executables"

[[set.rule.condition]]
kind = "name"
scope = "full_name"
pattern = "^(dropbox|googledrivesync|googledrivefs|onedrive|box|megasync|icloud(drive)?)\\.exe$"
regex = true

[[set.rule.condition]]
kind = "meta_type"
meta_type = "files"

[[set.rule]]
id = "cloud-storage-02-dropbox-config"
name = "Dropbox configuration folder"

[[set.rule.condition]]
kind = "meta_type"
meta_type = "files"

[[set.rule.condition]]
kind = "parent_path"
pattern = "/.dropbox/"

[[set]]
name = "Encryption Programs"
description = "Disk and container encryption tools"
ignore_known_files = true
ignore_unallocated_space = true
standard = true
version = 1

[[set.rule]]
id = "encryption-programs-01"
name = "Encryption program executables"

[[set.rule.condition]]
kind = "name"
scope = "full_name"
pattern = "^(truecrypt|veracrypt|veracrypt-x64|axcrypt|bitlockertogo|gpg|gpg2|kleopatra)(\\.exe)?$"
regex = true

[[set.rule.condition]]
kind = "meta_type"
meta_type = "files"

[[set]]
name = "Disk Images"
description = "Forensic and virtual machine disk images"
ignore_known_files = true
ignore_unallocated_space = true
standard = true
version = 1

[[set.rule]]
id = "disk-images-01"
name = "Disk image extensions"

[[set.rule.condition]]
kind = "name"
scope = "extension"
pattern = "e01,ex01,aff,dd,raw,img,vmdk,vhd,vhdx,vdi,qcow2,dmg,iso"

[[set.rule.condition]]
kind = "meta_type"
meta_type = "files"

[[set.rule.condition]]
kind = "file_size"
comparator = "greater_than"
unit = "megabytes"
value = 1
"#

/-! ## Records -/

/-- The record of a condition on full names that a regular expression matches. -/
def fullNameRecord (pattern : String) : Value :=
  table [("kind", text "name"), ("scope", text "full_name"), ("pattern", text pattern),
    ("regex", bool true)]

/-- The record of a condition on extensions. -/
def extensionRecord (pattern : String) : Value :=
  table [("kind", text "name"), ("scope", text "extension"), ("pattern", text pattern)]

/-- The record of a condition that nothing but files passes. -/
def filesRecord : Value := table [("kind", text "meta_type"), ("meta_type", text "files")]

/-- The record of the condition on the directory of a program's settings. -/
def folderRecord : Value := table [("kind", text "parent_path"), ("pattern", text "/.dropbox/")]

/-- The record of the condition that a file is not small. -/
def sizeRecord : Value :=
  table [("kind", text "file_size"), ("comparator", text "greater_than"),
    ("unit", text "megabytes"), ("value", nat 1)]

/-- The record of a rule. -/
def ruleRecord (id name : String) (conditions : List Value) : Value :=
  table [("id", text id), ("name", text name), ("condition", list conditions)]

/-- The record of a shipped set. -/
def setRecord (name description : String) (rules : List Value) : Value :=
  table [("name", text name), ("description", text description),
    ("ignore_known_files", bool true), ("ignore_unallocated_space", bool true),
    ("standard", bool true), ("version", nat 1), ("rule", list rules)]

/-- The record of a document. -/
def documentRecord (sets : List Value) : Value :=
  table [("format_version", nat 1), ("set", list sets)]

variable {pattern : String} {records : List Value}

/-- The record of a condition on full names is read as that condition, if its regular expression can
be compiled. -/
theorem exists_fullName (hblank : Text.allBlank pattern = false)
    (h : (Regex.compile pattern).toBool = true) :
    ∃ c, NameCondition.build .fullName pattern true = .ok c ∧
      Condition.ofValue (fullNameRecord pattern) = .ok (.name c) := by
  obtain ⟨c, hc⟩ := NameCondition.exists_build_of_compile hblank h .fullName
  refine ⟨c, hc, ?_⟩
  show (refusedOr (NameCondition.build .fullName pattern true)).map Condition.name = _
  rw [hc]
  rfl

theorem exists_extension (pattern : String)
    (h : (NameScope.extension.matcher pattern false).toBool = true) :
    ∃ c, NameCondition.build .extension pattern false = .ok c ∧
      Condition.ofValue (extensionRecord pattern) = .ok (.name c) := by
  cases hmatcher : NameScope.extension.matcher pattern false with
  | error why =>
    rw [hmatcher] at h
    cases h
  | ok matcher =>
    let c : NameCondition := ⟨.extension, pattern, false, matcher, hmatcher⟩
    refine ⟨c, c.build_self, ?_⟩
    show (refusedOr (NameCondition.build .extension pattern false)).map Condition.name = _
    rw [show NameCondition.build .extension pattern false = .ok c from c.build_self]
    rfl

theorem ofValue_filesRecord : Condition.ofValue filesRecord = .ok (.metaType .files) := rfl

/-- The record of a rule is read as what is built of its conditions, if these are in evaluation
order. -/
theorem exists_rule (id name : String) {conditions : List Condition}
    (hread : records.mapM Condition.ofValue = .ok conditions) (hid : Text.allBlank id = false)
    (hname : Text.allBlank name = false) (hne : conditions ≠ [])
    (h : conditions.Pairwise fun a b => a.kind.rank < b.kind.rank) :
    ∃ r, Rule.build id name conditions = .ok r ∧
      Rule.ofValue (.ok ()) (ruleRecord id name records) = .ok r ∧ r.id = id := by
  obtain ⟨r, hr, hrid⟩ := Rule.exists_build hid hname hne h
  have hconditions : RuleDraft.set "condition" (list records) { id := some id, name := some name } =
      .ok { id := some id, name := some name, conditions := some conditions } := by
    show (fill none (records.mapM Condition.ofValue)).map _ = _
    rw [hread]
    rfl
  have hdraft : [("id", text id), ("name", text name), ("condition", list records)].foldlM
      (Value.RecordFormat.addField ⟨["id", "name", "exclusive", "condition"], RuleDraft.set⟩) {} =
        .ok { id := some id, name := some name, conditions := some conditions } := by
    rw [foldlM_addField_cons rfl rfl rfl, foldlM_addField_cons rfl rfl rfl,
      foldlM_addField_cons rfl rfl hconditions]
    rfl
  refine ⟨r, hr, ?_, hrid⟩
  rw [Rule.ofValue, ruleRecord, collect_table hdraft]
  show refusedOr (Rule.build id name conditions) = .ok r
  rw [hr]
  rfl

/-- The record of a shipped set is read as what is built of its rules, if these have distinct
ids. -/
theorem exists_set (name description : String) {rules : List Rule}
    (hread : records.mapM (Rule.ofValue (.ok ())) = .ok rules) (hname : Text.allBlank name = false)
    (hids : (rules.map Rule.id).Nodup) :
    ∃ s, shippedSet name description rules = .ok s ∧
      FilesSet.ofValue (.ok ()) (setRecord name description records) = .ok s ∧ s.name = name := by
  let draft : SetDraft := {
    name := some name, description := some description, ignoreKnownFiles := some true
    ignoreUnallocatedSpace := some true, standard := some true, version := some 1 }
  have hversion : SetDraft.set (.ok ()) "version" (nat 1) { draft with version := none } =
      .ok draft := rfl
  have hrules : SetDraft.set (.ok ()) "rule" (list records) draft =
      .ok { draft with rules := some rules } := by
    show (fill none (records.mapM (Rule.ofValue (.ok ())))).map _ = _
    rw [hread]
    rfl
  -- field by field, as the rules alone are more than an evaluation
  have hdraft : [("name", text name), ("description", text description),
      ("ignore_known_files", bool true), ("ignore_unallocated_space", bool true),
      ("standard", bool true), ("version", nat 1), ("rule", list records)].foldlM
        (Value.RecordFormat.addField ⟨FilesSet.fieldNames, SetDraft.set (.ok ())⟩) {} =
          .ok { draft with rules := some rules } := by
    rw [foldlM_addField_cons rfl rfl rfl, foldlM_addField_cons rfl rfl rfl,
      foldlM_addField_cons rfl rfl rfl, foldlM_addField_cons rfl rfl rfl,
      foldlM_addField_cons rfl rfl rfl, foldlM_addField_cons rfl rfl hversion,
      foldlM_addField_cons rfl rfl hrules]
    rfl
  obtain ⟨s, hs, hsname⟩ : ∃ s, shippedSet name description rules = .ok s ∧ s.name = name :=
    FilesSet.exists_build hname hids
  refine ⟨s, hs, ?_, hsname⟩
  rw [FilesSet.ofValue, setRecord, collect_table hdraft]
  show refusedOr (shippedSet name description rules) = .ok s
  rw [hs]
  rfl

/-- The record of a document is read as the sets of its records. -/
theorem readDocument_documentRecord {sets : List FilesSet}
    (h : records.mapM (FilesSet.ofValue (.ok ())) = .ok sets) :
    readDocument (documentRecord records) = .ok (formatVersion, sets) := by
  have hversion : DocumentDraft.set "format_version" (nat 1) {} =
      .ok { version := some formatVersion } := rfl
  have hsets : DocumentDraft.set "set" (list records) { version := some formatVersion } =
      .ok { version := some formatVersion, sets := some sets } := by
    show (fill none (records.mapM (FilesSet.ofValue (.ok ())))).map _ = _
    rw [h]
    rfl
  have hdraft : [("format_version", nat 1), ("set", list records)].foldlM
      (Value.RecordFormat.addField ⟨["format_version", "set"], DocumentDraft.set⟩) {} =
        .ok { version := some formatVersion, sets := some sets } := by
    rw [foldlM_addField_cons rfl rfl hversion, foldlM_addField_cons rfl rfl hsets]
    rfl
  rw [readDocument, documentRecord, collect_table hdraft]
  rfl

/-! ## The sets of the document -/

/-- The names of programs of cloud storage services. -/
def cloudPattern : String :=
  "^(dropbox|googledrivesync|googledrivefs|onedrive|box|megasync|icloud(drive)?)\\.exe$"

/-- The record of the set of cloud storage services. -/
def cloudStorageRecord : Value :=
  setRecord "Cloud Storage" "Desktop clients and local caches of cloud storage services"
    [ruleRecord "cloud-storage-01-clients" "Cloud storage client executables"
      [fullNameRecord cloudPattern, filesRecord],
     ruleRecord "cloud-storage-02-dropbox-config" "Dropbox configuration folder"
      [filesRecord, folderRecord]]

/-- The names of programs that encrypt. -/
def encryptionPattern : String :=
  "^(truecrypt|veracrypt|veracrypt-x64|axcrypt|bitlockertogo|gpg|gpg2|kleopatra)(\\.exe)?$"

/-- The record of the set of programs that encrypt. -/
def encryptionProgramsRecord : Value :=
  setRecord "Encryption Programs" "Disk and container encryption tools"
    [ruleRecord "encryption-programs-01" "Encryption program executables"
      [fullNameRecord encryptionPattern, filesRecord]]

/-- The extensions of images of disks. -/
def imageExtensions : String := "e01,ex01,aff,dd,raw,img,vmdk,vhd,vhdx,vdi,qcow2,dmg,iso"

/-- The record of the set of images of disks. -/
def diskImagesRecord : Value :=
  setRecord "Disk Images" "Forensic and virtual machine disk images"
    [ruleRecord "disk-images-01" "Disk image extensions"
      [extensionRecord imageExtensions, filesRecord, sizeRecord]]

/-- The records of the document in their order. -/
def shippedRecords : List Value := [cloudStorageRecord, encryptionProgramsRecord, diskImagesRecord]

/-- A record is read as the set that is built, and the set has this name. -/
def Describes (record : Value) (built : Except ConstructionError FilesSet) (name : String) : Prop :=
  ∃ s, built = .ok s ∧ FilesSet.ofValue (.ok ()) record = .ok s ∧ s.name = name

set_option maxRecDepth 8000 in
-- ranges of code points are sorted, and the kernel alone does not evaluate that
theorem compile_cloudPattern : (Regex.compile cloudPattern).toBool = true := by cbv

set_option maxRecDepth 8000 in
theorem compile_encryptionPattern : (Regex.compile encryptionPattern).toBool = true := by cbv

theorem describes_cloudStorage : Describes cloudStorageRecord cloudStorage "Cloud Storage" := by
  obtain ⟨client, hclient, hname⟩ := exists_fullName (by decide) compile_cloudPattern
  obtain ⟨folder, hfolder, hpath⟩ : ∃ c, ParentPathCondition.build "/.dropbox/" false = .ok c ∧
      Condition.ofValue folderRecord = .ok (.parentPath c) := ⟨_, rfl, rfl⟩
  have hfirst : [fullNameRecord cloudPattern, filesRecord].mapM Condition.ofValue =
      .ok [.name client, .metaType .files] := mapM_cons_of_ok hname rfl
  obtain ⟨clients, hclients, hread, hid⟩ := exists_rule "cloud-storage-01-clients"
    "Cloud storage client executables" hfirst (by decide) (by decide) (List.cons_ne_nil _ _)
    (by simp [Condition.kind, ConditionKind.rank])
  have hsecond : [filesRecord, folderRecord].mapM Condition.ofValue =
      .ok [.metaType .files, .parentPath folder] :=
    mapM_cons_of_ok ofValue_filesRecord (mapM_cons_of_ok hpath rfl)
  obtain ⟨settings, hsettings, hread', hid'⟩ := exists_rule "cloud-storage-02-dropbox-config"
    "Dropbox configuration folder" hsecond (by decide) (by decide) (List.cons_ne_nil _ _)
    (by simp [Condition.kind, ConditionKind.rank])
  have hids : ([clients, settings].map Rule.id).Nodup := by simp [hid, hid']
  obtain ⟨s, hs, hset, hsname⟩ := exists_set "Cloud Storage"
    "Desktop clients and local caches of cloud storage services"
    (mapM_cons_of_ok hread (mapM_cons_of_ok hread' List.mapM_nil)) (by decide) hids
  refine ⟨s, ?_, hset, hsname⟩
  exact bind_eq_ok_iff.2 ⟨client, hclient, bind_eq_ok_iff.2 ⟨folder, hfolder,
    bind_eq_ok_iff.2 ⟨clients, hclients, bind_eq_ok_iff.2 ⟨settings, hsettings, hs⟩⟩⟩⟩

theorem describes_encryptionPrograms :
    Describes encryptionProgramsRecord encryptionPrograms "Encryption Programs" := by
  obtain ⟨program, hprogram, hname⟩ := exists_fullName (by decide) compile_encryptionPattern
  have hconditions : [fullNameRecord encryptionPattern, filesRecord].mapM Condition.ofValue =
      .ok [.name program, .metaType .files] := mapM_cons_of_ok hname rfl
  obtain ⟨programs, hprograms, hread, -⟩ := exists_rule "encryption-programs-01"
    "Encryption program executables" hconditions (by decide) (by decide) (List.cons_ne_nil _ _)
    (by simp [Condition.kind, ConditionKind.rank])
  have hids : ([programs].map Rule.id).Nodup := List.nodup_singleton _
  obtain ⟨s, hs, hset, hsname⟩ := exists_set "Encryption Programs"
    "Disk and container encryption tools" (mapM_cons_of_ok hread List.mapM_nil) (by decide) hids
  refine ⟨s, ?_, hset, hsname⟩
  exact bind_eq_ok_iff.2 ⟨program, hprogram, bind_eq_ok_iff.2 ⟨programs, hprograms, hs⟩⟩

theorem describes_diskImages : Describes diskImagesRecord diskImages "Disk Images" := by
  obtain ⟨image, himage, hname⟩ := exists_extension imageExtensions (by decide +kernel)
  obtain ⟨large, hlarge, hsize⟩ : ∃ c, FileSizeCondition.build .greaterThan .megabytes 1 = .ok c ∧
      Condition.ofValue sizeRecord = .ok (.fileSize c) := ⟨_, rfl, rfl⟩
  have hconditions : [extensionRecord imageExtensions, filesRecord, sizeRecord].mapM
      Condition.ofValue = .ok [.name image, .metaType .files, .fileSize large] :=
    mapM_cons_of_ok hname (mapM_cons_of_ok ofValue_filesRecord (mapM_cons_of_ok hsize rfl))
  obtain ⟨images, himages, hread, -⟩ := exists_rule "disk-images-01" "Disk image extensions"
    hconditions (by decide) (by decide) (List.cons_ne_nil _ _)
    (by simp [Condition.kind, ConditionKind.rank])
  have hids : ([images].map Rule.id).Nodup := List.nodup_singleton _
  obtain ⟨s, hs, hset, hsname⟩ := exists_set "Disk Images"
    "Forensic and virtual machine disk images" (mapM_cons_of_ok hread List.mapM_nil) (by decide) hids
  refine ⟨s, ?_, hset, hsname⟩
  exact bind_eq_ok_iff.2 ⟨image, himage, bind_eq_ok_iff.2 ⟨large, hlarge,
    bind_eq_ok_iff.2 ⟨images, himages, hs⟩⟩⟩

/-! ## The document -/

set_option maxRecDepth 8000 in
theorem read_shippedSetsText :
    Toml.read shippedSetsText = some (documentRecord shippedRecords) := by
  -- the reader works on the list of characters, so the text is written as one before it is read
  have htext : shippedSetsText = String.ofList _ := rfl
  rw [Toml.read, htext, String.toList_ofList]
  rfl

set_option maxRecDepth 8000 in
theorem allBlank_shippedSetsText : Text.allBlank shippedSetsText = false := by
  have htext : shippedSetsText = String.ofList _ := rfl
  rw [Text.allBlank, htext, String.toList_ofList]
  rfl

/-- The shipped sets are what the records of the document are read as. -/
theorem exists_shippedSets : ∃ cloud encryption images,
    shippedRecords.mapM (FilesSet.ofValue (.ok ())) = .ok [cloud, encryption, images] ∧
    [cloud.name, encryption.name, images.name] =
      ["Cloud Storage", "Encryption Programs", "Disk Images"] ∧
    shippedSets = .ofList [("Cloud Storage", cloud), ("Encryption Programs", encryption),
      ("Disk Images", images)] := by
  obtain ⟨cloud, hcloud, hread, hname⟩ := describes_cloudStorage
  obtain ⟨encryption, hencryption, hread', hname'⟩ := describes_encryptionPrograms
  obtain ⟨images, himages, hread'', hname''⟩ := describes_diskImages
  refine ⟨cloud, encryption, images, ?_, ?_, ?_⟩
  · exact mapM_cons_of_ok hread (mapM_cons_of_ok hread' (mapM_cons_of_ok hread'' List.mapM_nil))
  · rw [hname, hname', hname'']
  · rw [shippedSets, hcloud, hencryption, himages, ← hname, ← hname', ← hname'']
    rfl

theorem ofToml_encode_shippedSetsText :
    ofToml (Text.Utf8.encode shippedSetsText) = .ok shippedSets := by
  obtain ⟨cloud, encryption, images, hsets, hnames, hshipped⟩ := exists_shippedSets
  have hnodup : ([cloud, encryption, images].map FilesSet.name).Nodup := by
    show [cloud.name, encryption.name, images.name].Nodup
    rw [hnames]
    decide
  simp only [List.cons.injEq, and_true] at hnames
  rw [ofToml_encode_of_read allBlank_shippedSetsText read_shippedSetsText
    (readDocument_documentRecord hsets), byName, ofSets_of_nodup hnodup, hshipped]
  simp only [List.map_cons, List.map_nil, hnames]

theorem keys_shippedSets :
    shippedSets.keys = ["Cloud Storage", "Disk Images", "Encryption Programs"] := by
  obtain ⟨cloud, encryption, images, -, -, hshipped⟩ := exists_shippedSets
  -- the document has its own order, the map that of the names
  have hascending : ["Cloud Storage", "Disk Images", "Encryption Programs"].Pairwise (· < ·) := by
    decide
  let m : Definitions := ⟨[("Cloud Storage", cloud), ("Disk Images", images),
    ("Encryption Programs", encryption)], List.pairwise_map.1 hascending⟩
  have heq : shippedSets = m :=
    hshipped.trans (NameMap.ofList_of_perm (.cons _ (.swap _ _ _)))
  rw [heq]
  rfl

/-- The shipped sets are those of the document. -/
theorem ofToml_shippedSetsText :
    (ofToml (Text.Utf8.encode shippedSetsText)).map asStandard = .ok shippedSets := by
  rw [ofToml_encode_shippedSetsText]
  exact congrArg Except.ok allStandard_shippedSets.asStandard_eq

end FileTriage.Definitions
