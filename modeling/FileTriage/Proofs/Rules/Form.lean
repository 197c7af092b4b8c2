/-
Conditions, rules and files sets are read as they were written.

What is read goes through the constructors that refuse blank names, bad patterns and doubles.  They
accept what they have made before, and change nothing about it: the conditions of a rule are in
order already, and the rules of a set stand under their ids.
-/
import FileTriage.Proofs.Rules.Building
import FileTriage.Rules.Form

namespace FileTriage

open Value

/-! ## Constructors -/

theorem NameCondition.build_self (c : NameCondition) :
    NameCondition.build c.scope c.pattern c.isRegex = .ok c := by
  obtain ⟨scope, pattern, isRegex, matcher, hmatcher⟩ := c
  simp only [NameCondition.build]
  split
  · next matcher' h =>
    rw [hmatcher] at h
    cases h
    rfl
  · next h =>
    rw [hmatcher] at h
    cases h

/-- A regular expression that can be compiled makes a condition. -/
theorem NameCondition.exists_build_of_compile {pattern : String}
    (hblank : Text.allBlank pattern = false) (h : (Regex.compile pattern).toBool = true)
    (scope : NameScope) : ∃ c, NameCondition.build scope pattern true = .ok c := by
  cases hcompile : Regex.compile pattern with
  | error fault =>
    rw [hcompile] at h
    cases h
  | ok r =>
    have hmatcher : scope.matcher pattern true = .ok (.regex r) := by
      simp [NameScope.matcher, hblank, TextMatcher.ofRegex, hcompile]
    let c : NameCondition := ⟨scope, pattern, true, .regex r, hmatcher⟩
    exact ⟨c, c.build_self⟩

theorem ParentPathCondition.build_self (c : ParentPathCondition) :
    ParentPathCondition.build c.pattern c.isRegex = .ok c := by
  obtain ⟨pattern, isRegex, matcher, hmatcher⟩ := c
  simp only [ParentPathCondition.build]
  split
  · next matcher' h =>
    rw [hmatcher] at h
    cases h
    rfl
  · next h =>
    rw [hmatcher] at h
    cases h

theorem MimeTypeCondition.build_self (c : MimeTypeCondition) :
    MimeTypeCondition.build c.mimeType = .ok c := by
  rw [MimeTypeCondition.build, dif_pos c.not_blank]

theorem FileSizeCondition.build_self (c : FileSizeCondition) :
    FileSizeCondition.build c.comparator c.unit c.value = .ok c := by
  rw [FileSizeCondition.build, dif_pos c.sensible]

/-! ## Variants -/

theorem asInnerVariant_variantName {α : Type} [DecidableEq α] {known : List (String × α)}
    (hnames : (known.map (·.1)).Nodup) {a : α} (ha : a ∈ known.map (·.2)) :
    asInnerVariant known (text (variantName known a)) = .ok a :=
  asVariant_variantName _ hnames ha

theorem NameScope.asInnerVariant_self (scope : NameScope) :
    asInnerVariant variants (text (variantName variants scope)) = .ok scope :=
  asInnerVariant_variantName (by decide) (by cases scope <;> decide)

theorem MetaTypeFilter.asInnerVariant_self (admitted : MetaTypeFilter) :
    asInnerVariant variants (text (variantName variants admitted)) = .ok admitted :=
  asInnerVariant_variantName (by decide) (by cases admitted <;> decide)

theorem SizeComparator.asInnerVariant_self (comparator : SizeComparator) :
    asInnerVariant variants (text (variantName variants comparator)) = .ok comparator :=
  asInnerVariant_variantName (by decide) (by cases comparator <;> decide)

theorem SizeUnit.asInnerVariant_self (unit : SizeUnit) :
    asInnerVariant variants (text (variantName variants unit)) = .ok unit :=
  asInnerVariant_variantName (by decide) (by cases unit <;> decide)

theorem readKind_variantName (kind : ConditionKind) :
    readKind (text (variantName ConditionKind.variants kind)) = .ok kind :=
  variantOf_variantName (by decide) (by cases kind <;> decide)

/-! ## Conditions -/

/-- The fields of a condition are no kinds, and all of their text is usable. -/
theorem Condition.fields_usable (c : Condition) :
    ∀ f ∈ c.fields, f.1 ≠ "kind" ∧ f.2.isWhole = true := by
  cases c <;> simp [Condition.fields, isWhole, nat]

theorem splitKind_some (kind : ConditionKind) {fields : List (String × Value)}
    (h : ∀ f ∈ fields, f.1 ≠ "kind" ∧ f.2.isWhole = true) :
    splitKind (some kind) fields = .ok (kind, fields) := by
  induction fields with
  | nil => rfl
  | cons f fields ih =>
    obtain ⟨name, v⟩ := f
    obtain ⟨hname, hwhole⟩ := h (name, v) List.mem_cons_self
    rw [splitKind, isNameless_of_isWhole hwhole, if_neg (by decide), if_neg hname, if_pos hwhole,
      ih fun f hf => h f (List.mem_cons_of_mem _ hf)]
    rfl

/-- The kind of a condition is taken out of its fields. -/
theorem splitKind_kind (kind : ConditionKind) {fields : List (String × Value)}
    (h : ∀ f ∈ fields, f.1 ≠ "kind" ∧ f.2.isWhole = true) :
    splitKind none (("kind", text (variantName ConditionKind.variants kind)) :: fields) =
      .ok (kind, fields) := by
  have hnameless : ¬ (text (variantName ConditionKind.variants kind)).isNameless = true :=
    Bool.false_ne_true
  rw [splitKind, if_neg hnameless, if_pos rfl, readKind_variantName]
  exact splitKind_some kind h

theorem ConditionDraft.set_value (v : Value) (d : ConditionDraft) :
    ConditionDraft.set "value" v d = (fill d.value v.asWord64).map ({ d with value := · }) := rfl

theorem ConditionDraft.set_daysIncluded (v : Value) (d : ConditionDraft) :
    ConditionDraft.set "days_included" v d =
      (fill d.daysIncluded v.asWord32).map ({ d with daysIncluded := · }) := rfl

/-- The draft that the fields of a condition fill. -/
def Condition.draft : Condition → ConditionDraft
  | .name c => { scope := some c.scope, pattern := some c.pattern, regex := some c.isRegex }
  | .metaType admitted => { metaType := some admitted }
  | .parentPath c => { pattern := some c.pattern, regex := some c.isRegex }
  | .mimeType c => { mimeType := some c.mimeType }
  | .fileSize c =>
    { comparator := some c.comparator, unit := some c.unit, value := some c.value }
  | .date days => { daysIncluded := some days }

/-- The fields of a condition fill its draft, each the slot that is named for it. -/
theorem Condition.foldlM_fields (c : Condition) :
    c.fields.foldlM (RecordFormat.addField ⟨c.kind.fieldNames, ConditionDraft.set⟩) {} =
      .ok c.draft := by
  cases c with
  | name c =>
    have hscope : ConditionDraft.set "scope" (text (variantName NameScope.variants c.scope)) {} =
        .ok { scope := some c.scope } := by
      show (fill none (asInnerVariant NameScope.variants _)).map _ = _
      rw [NameScope.asInnerVariant_self]
      rfl
    rw [Condition.fields, foldlM_addField_cons rfl rfl hscope, foldlM_addField_cons rfl rfl rfl,
      foldlM_addField_cons rfl rfl rfl]
    rfl
  | metaType admitted =>
    have hmetaType : ConditionDraft.set "meta_type"
        (text (variantName MetaTypeFilter.variants admitted)) {} =
          .ok { metaType := some admitted } := by
      show (fill none (asInnerVariant MetaTypeFilter.variants _)).map _ = _
      rw [MetaTypeFilter.asInnerVariant_self]
      rfl
    rw [Condition.fields, foldlM_addField_cons rfl rfl hmetaType]
    rfl
  | parentPath c =>
    rw [Condition.fields, foldlM_addField_cons rfl rfl rfl, foldlM_addField_cons rfl rfl rfl]
    rfl
  | mimeType c =>
    rw [Condition.fields, foldlM_addField_cons rfl rfl rfl]
    rfl
  | fileSize c =>
    have hcomparator : ConditionDraft.set "comparator"
        (text (variantName SizeComparator.variants c.comparator)) {} =
          .ok { comparator := some c.comparator } := by
      show (fill none (asInnerVariant SizeComparator.variants _)).map _ = _
      rw [SizeComparator.asInnerVariant_self]
      rfl
    have hunit : ConditionDraft.set "unit" (text (variantName SizeUnit.variants c.unit))
        { comparator := some c.comparator } =
          .ok { comparator := some c.comparator, unit := some c.unit } := by
      show (fill none (asInnerVariant SizeUnit.variants _)).map _ = _
      rw [SizeUnit.asInnerVariant_self]
      rfl
    have hvalue : ConditionDraft.set "value" (nat c.value.toNat)
        { comparator := some c.comparator, unit := some c.unit } =
          .ok (Condition.fileSize c).draft := by
      rw [ConditionDraft.set_value, asWord64_nat]
      rfl
    rw [Condition.fields, foldlM_addField_cons rfl rfl hcomparator,
      foldlM_addField_cons rfl rfl hunit, foldlM_addField_cons rfl rfl hvalue]
    rfl
  | date days =>
    have hdays : ConditionDraft.set "days_included" (nat days.toNat) {} =
        .ok (Condition.date days).draft := by
      rw [ConditionDraft.set_daysIncluded, asWord32_nat]
      rfl
    rw [Condition.fields, foldlM_addField_cons rfl rfl hdays]
    rfl

/-- The draft of a condition is the draft of that condition alone. -/
theorem Condition.ofFields_draft (c : Condition) (missing : String → DataFault) :
    Condition.ofFields c.kind ⟨c.draft, missing⟩ = .ok c := by
  cases c with
  | name c =>
    show (refusedOr (NameCondition.build c.scope c.pattern c.isRegex)).map Condition.name = _
    rw [c.build_self]
    rfl
  | metaType admitted => rfl
  | parentPath c =>
    show (refusedOr (ParentPathCondition.build c.pattern c.isRegex)).map Condition.parentPath = _
    rw [c.build_self]
    rfl
  | mimeType c =>
    show (refusedOr (MimeTypeCondition.build c.mimeType)).map Condition.mimeType = _
    rw [c.build_self]
    rfl
  | fileSize c =>
    show (refusedOr (FileSizeCondition.build c.comparator c.unit c.value)).map
      Condition.fileSize = _
    rw [c.build_self]
    rfl
  | date days => rfl

/-- The content of a condition is read as that condition. -/
theorem Condition.ofContent_fields (c : Condition) :
    Condition.ofContent c.kind (table c.fields) = .ok c := by
  rw [Condition.ofContent, collect_table c.foldlM_fields]
  exact c.ofFields_draft _

/-- A condition is read as it was written. -/
theorem Condition.ofValue_toValue (c : Condition) : Condition.ofValue c.toValue = .ok c := by
  rw [Condition.toValue, Condition.ofValue, splitKind_kind c.kind c.fields_usable]
  exact c.ofContent_fields

/-! ## Rules and sets -/

/-- A rule is read as it was written. -/
theorem Rule.ofValue_toValue (surplus : Except DataFault Unit) (r : Rule) :
    Rule.ofValue surplus r.toValue = .ok r := by
  have hconditions : RuleDraft.set "condition" (list (r.conditions.map Condition.toValue))
      { id := some r.id, name := some r.name, exclusive := some r.exclusive } =
        .ok { id := some r.id, name := some r.name, exclusive := some r.exclusive,
              conditions := some r.conditions } := by
    show (fill none
      ((list (r.conditions.map Condition.toValue)).asList Condition.ofValue)).map _ = _
    rw [asList_map fun c _ => c.ofValue_toValue]
    rfl
  have hdraft : [("id", text r.id), ("name", text r.name), ("exclusive", bool r.exclusive),
      ("condition", list (r.conditions.map Condition.toValue))].foldlM
        (RecordFormat.addField ⟨["id", "name", "exclusive", "condition"], RuleDraft.set⟩) {} =
          .ok { id := some r.id, name := some r.name, exclusive := some r.exclusive,
                conditions := some r.conditions } := by
    rw [foldlM_addField_cons rfl rfl rfl, foldlM_addField_cons rfl rfl rfl,
      foldlM_addField_cons rfl rfl rfl, foldlM_addField_cons rfl rfl hconditions]
    rfl
  rw [Rule.ofValue, Rule.toValue, collect_table hdraft]
  show refusedOr (Rule.build r.id r.name r.conditions r.exclusive) = _
  rw [r.build_self]
  rfl

theorem SetDraft.set_version (surplus : Except DataFault Unit) (v : Value) (d : SetDraft) :
    SetDraft.set surplus "version" v d =
      (fill d.version v.asWord32).map ({ d with version := · }) := rfl

/-- A files set is read as it was written. -/
theorem FilesSet.ofValue_toValue (surplus : Except DataFault Unit) (s : FilesSet) :
    FilesSet.ofValue surplus s.toValue = .ok s := by
  let flags : SetDraft := {
    name := some s.name, description := some s.description
    ignoreKnownFiles := some s.ignoreKnownFiles
    ignoreUnallocatedSpace := some s.ignoreUnallocatedSpace, standard := some s.standard }
  have hversion : SetDraft.set surplus "version" (nat s.version.toNat) flags =
      .ok { flags with version := some s.version } := by
    rw [SetDraft.set_version, asWord32_nat]
    rfl
  have hrules : SetDraft.set surplus "rule" (list (s.rules.values.map Rule.toValue))
      { flags with version := some s.version } =
        .ok { flags with version := some s.version, rules := some s.rules.values } := by
    show (fill none
      ((list (s.rules.values.map Rule.toValue)).asList (Rule.ofValue surplus))).map _ = _
    rw [asList_map fun r _ => r.ofValue_toValue surplus]
    rfl
  have hdraft : [("name", text s.name), ("description", text s.description),
      ("ignore_known_files", bool s.ignoreKnownFiles),
      ("ignore_unallocated_space", bool s.ignoreUnallocatedSpace), ("standard", bool s.standard),
      ("version", nat s.version.toNat), ("rule", list (s.rules.values.map Rule.toValue))].foldlM
        (RecordFormat.addField ⟨fieldNames, SetDraft.set surplus⟩) {} =
          .ok { flags with version := some s.version, rules := some s.rules.values } := by
    rw [foldlM_addField_cons rfl rfl rfl, foldlM_addField_cons rfl rfl rfl,
      foldlM_addField_cons rfl rfl rfl, foldlM_addField_cons rfl rfl rfl,
      foldlM_addField_cons rfl rfl rfl, foldlM_addField_cons rfl rfl hversion,
      foldlM_addField_cons rfl rfl hrules]
    rfl
  rw [FilesSet.ofValue, FilesSet.toValue, collect_table hdraft]
  show refusedOr (FilesSet.build (s.draft s.rules.values)) = _
  rw [s.build_self]
  rfl

end FileTriage
