/-
Definitions of the older format are read without loss.

A collection is written as a table of its sets.  Whoever reads the table takes the sets out of it
and puts them together under their names, so the keys of the table do not count, and neither does
the order in which they come.  The TOML reader comes first and refuses every table of JSON.
-/
import FileTriage.Proofs.Definitions.Formats
import FileTriage.Proofs.Definitions.TomlRoundTrip
import FileTriage.Proofs.Json.RoundTrip

namespace FileTriage

open Json (Plain)

/-! ## Records are plain -/

theorem Json.plain_nat (depth : Nat) {n : Nat} (h : n < UInt64.size) : Plain depth (Value.nat n) :=
  .int depth ⟨by omega, by omega⟩

theorem Condition.plain (depth : Nat) (c : Condition) : Plain (depth + 1) c.toValue := by
  refine .table fun f hf => ?_
  rcases List.mem_cons.1 hf with rfl | hf
  · exact .text depth _
  · cases c with
    | name c =>
      simp only [fields, List.mem_cons, List.not_mem_nil, or_false] at hf
      rcases hf with rfl | rfl | rfl
      · exact .text depth _
      · exact .text depth _
      · exact .bool depth _
    | metaType admitted =>
      rw [fields, List.mem_singleton] at hf
      exact hf ▸ .text depth _
    | parentPath c =>
      simp only [fields, List.mem_cons, List.not_mem_nil, or_false] at hf
      rcases hf with rfl | rfl
      · exact .text depth _
      · exact .bool depth _
    | mimeType c =>
      rw [fields, List.mem_singleton] at hf
      exact hf ▸ .text depth _
    | fileSize c =>
      simp only [fields, List.mem_cons, List.not_mem_nil, or_false] at hf
      rcases hf with rfl | rfl | rfl
      · exact .text depth _
      · exact .text depth _
      · exact Json.plain_nat depth c.value.toNat_lt
    | date days =>
      rw [fields, List.mem_singleton] at hf
      exact hf ▸ Json.plain_nat depth (Nat.lt_trans days.toNat_lt (by decide))

theorem Rule.plain (depth : Nat) (r : Rule) : Plain (depth + 3) r.toValue := by
  refine .table fun f hf => ?_
  simp only [List.mem_cons, List.not_mem_nil, or_false] at hf
  rcases hf with rfl | rfl | rfl | rfl
  · exact .text _ _
  · exact .text _ _
  · exact .bool _ _
  · refine .list fun v hv => ?_
    obtain ⟨c, -, rfl⟩ := List.mem_map.1 hv
    exact c.plain depth

theorem FilesSet.plain (depth : Nat) (s : FilesSet) : Plain (depth + 5) s.toValue := by
  refine .table fun f hf => ?_
  simp only [List.mem_cons, List.not_mem_nil, or_false] at hf
  rcases hf with rfl | rfl | rfl | rfl | rfl | rfl | rfl
  · exact .text _ _
  · exact .text _ _
  · exact .bool _ _
  · exact .bool _ _
  · exact .bool _ _
  · exact Json.plain_nat _ (Nat.lt_trans s.version.toNat_lt (by decide))
  · refine .list fun v hv => ?_
    obtain ⟨r, -, rfl⟩ := List.mem_map.1 hv
    exact r.plain depth

namespace Definitions

/-! ## Sets under keys -/

/-- The table of sets under keys, which need not be their names. -/
def tableOf (entries : List (String × FilesSet)) : Value :=
  .table (entries.map fun e => (e.1, e.2.toValue))

/-- A table of sets is nested six deep, and more than a hundred levels are left. -/
theorem plain_tableOf (entries : List (String × FilesSet)) :
    Plain Json.maxDepth (tableOf entries) := by
  refine .table fun f hf => ?_
  obtain ⟨e, -, rfl⟩ := List.mem_map.1 hf
  exact e.2.plain 121

/-- A table of sets gives the sets under their keys. -/
theorem readTable_tableOf (entries : List (String × FilesSet)) :
    readTable (tableOf entries) = .ok (.ofList entries) := by
  rw [tableOf, readTable, Value.mapM_map]
  · rfl
  · intro e _
    dsimp only
    rw [e.2.ofValue_toValue]
    rfl

/-- Bytes are a text of JSON for sets under keys. -/
def IsJsonOf (bytes : List UInt8) (entries : List (String × FilesSet)) : Prop :=
  Json.read bytes = ⟨tableOf entries, true⟩

/-- What is written for sets under keys is a text for them. -/
theorem isJsonOf_pretty (entries : List (String × FilesSet)) :
    IsJsonOf (Text.Utf8.encode (Json.pretty (tableOf entries))) entries :=
  (plain_tableOf entries).read_pretty

section Reading

variable {bytes : List UInt8} {entries : List (String × FilesSet)} (hbytes : IsJsonOf bytes entries)

include hbytes

theorem ofJsonText_of_isJsonOf : ofJsonText readTable bytes = .ok (.ofList entries) := by
  rw [IsJsonOf] at hbytes
  rw [ofJsonText, hbytes]
  simp only [readTable_tableOf, if_pos]

/-- The sets are found under their names, whatever their keys are and in whichever order they
come. -/
theorem ofJson_of_isJsonOf {sets : Definitions} (hnamed : sets.Named)
    (hkeys : (entries.map (·.1)).Nodup) (hsets : (entries.map (·.2)).Perm sets.values) :
    ofJson bytes = .ok sets := by
  have hvalues := (NameMap.values_ofList_perm hkeys).trans hsets
  rw [ofJson, ofJsonText_of_isJsonOf hbytes]
  show byName (NameMap.ofList entries).values = _
  rw [byName, ofSets_eq_ok_iff.2 ⟨hnamed, hvalues⟩]

/-- The TOML reader comes first and gives way. -/
theorem ofBytes_of_isJsonOf {sets : Definitions} (hnamed : sets.Named)
    (hkeys : (entries.map (·.1)).Nodup) (hsets : (entries.map (·.2)).Perm sets.values) :
    ofBytes bytes = .ok sets := by
  have hvalue : (Json.read bytes).value = tableOf entries := congrArg Json.Document.value hbytes
  obtain ⟨e, htoml⟩ := ofToml_of_table hvalue
  rw [ofBytes, htoml]
  simp only [ofJson_of_isJsonOf hbytes hnamed hkeys hsets]

end Reading

/-! ## Names that occur twice -/

/-- Two sets under different keys have this name. -/
def Shares (sets : Definitions) (name : String) : Prop :=
  ∃ key key' s s', key ≠ key' ∧ sets.get? key = some s ∧ sets.get? key' = some s' ∧
    s.name = name ∧ s'.name = name

theorem Shares.not_nodup {sets : Definitions} {name : String} (h : sets.Shares name) :
    ¬ (sets.values.map FilesSet.name).Nodup := by
  obtain ⟨key, key', s, s', hne, hs, hs', hname, hname'⟩ := h
  rw [NameMap.values, List.map_map]
  intro hnodup
  have heq := List.inj_on_of_nodup_map hnodup (NameMap.get?_eq_some_iff.1 hs)
    (NameMap.get?_eq_some_iff.1 hs') (hname.trans hname'.symm)
  exact hne (congrArg Prod.fst heq)

/-- Where two sets have one name, they are refused with a name that two sets have. -/
theorem Shares.exists_byName_error {sets : Definitions} {name : String} (h : sets.Shares name) :
    ∃ shared, sets.Shares shared ∧ byName sets.values = .error (.duplicateName shared) := by
  obtain ⟨before, s, after, hvalues, hmem, herror⟩ := exists_ofSets_error h.not_nodup
  refine ⟨s.name, ?_, by rw [byName, herror]⟩
  -- the set and the one before it stand under keys of which one is below the other
  obtain ⟨front, back, hentries, rfl, hback⟩ := List.map_eq_append_iff.1 hvalues
  obtain ⟨e, back, rfl, rfl, -⟩ := List.map_eq_cons_iff.1 hback
  obtain ⟨t, ht, hname⟩ := List.mem_map.1 hmem
  obtain ⟨e', he', rfl⟩ := List.mem_map.1 ht
  have hascending := sets.ascending
  rw [hentries] at hascending
  have hlt : e'.1 < e.1 :=
    (List.pairwise_append.1 hascending).2.2 e' he' e List.mem_cons_self
  refine ⟨e'.1, e.1, e'.2, e.2, ?_, ?_, ?_, hname, rfl⟩
  · intro heq
    exact String.lt_irrefl _ (heq ▸ hlt)
  · rw [NameMap.get?_eq_some_iff, hentries]
    exact List.mem_append_left _ he'
  · rw [NameMap.get?_eq_some_iff, hentries]
    exact List.mem_append_right _ List.mem_cons_self

/-! ## The round trip -/

/-- The round trip over the older format.  Sets that stand under their own names are written, and
both readers find exactly them in the text; they still do in every text of these sets under any
other distinct keys in any order.  A text that has two sets of one name is refused with such a
name. -/
theorem toJson_roundTrip (sets : Definitions) :
    (sets.Named → ∃ text, sets.toJson = .ok text ∧
      ofJson (Text.Utf8.encode text) = .ok sets ∧ ofBytes (Text.Utf8.encode text) = .ok sets) ∧
    (sets.Named → ∀ entries : List (String × FilesSet),
      (entries.map (·.1)).Nodup → (entries.map (·.2)).Perm sets.values →
        IsJsonOf (Text.Utf8.encode (Json.pretty (tableOf entries))) entries ∧
        ∀ bytes, IsJsonOf bytes entries → ofJson bytes = .ok sets ∧ ofBytes bytes = .ok sets) ∧
    ∀ bytes name, ofJsonText readTable bytes = .ok sets → sets.Shares name →
      ∃ shared, sets.Shares shared ∧ ofJson bytes = .error (.duplicateName shared) := by
  refine ⟨?_, ?_, ?_⟩
  · intro hnamed
    have hbytes := isJsonOf_pretty sets.entries
    refine ⟨Json.pretty sets.toValue, ?_, ?_, ?_⟩
    · rw [toJson, checkKeys_eq_ok_iff.2 hnamed]
      rfl
    · exact ofJson_of_isJsonOf hbytes hnamed sets.nodup_keys (.refl _)
    · exact ofBytes_of_isJsonOf hbytes hnamed sets.nodup_keys (.refl _)
  · intro hnamed entries hkeys hsets
    refine ⟨isJsonOf_pretty entries, fun bytes hbytes => ⟨?_, ?_⟩⟩
    · exact ofJson_of_isJsonOf hbytes hnamed hkeys hsets
    · exact ofBytes_of_isJsonOf hbytes hnamed hkeys hsets
  · intro bytes name hread hshares
    obtain ⟨shared, hshared, herror⟩ := hshares.exists_byName_error
    refine ⟨shared, hshared, ?_⟩
    rw [ofJson, hread]
    exact herror

/-- A key that is stale does not count. -/
example : (ofJson (Text.Utf8.encode "\x7b\"old\":\x7b\"name\":\"New\"\x7d\x7d")).toOption =
    some (ofNames [("New", false, 0)]) := by decide +kernel

end Definitions

end FileTriage
