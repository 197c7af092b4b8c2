/-
The sizes of sets that have been read.

The only number of a set that may be too large for TOML is the value of a size condition, and it is
an integer of the text.  So where all integers of a text fit, the sizes of the sets in it fit.
-/
import FileTriage.Proofs.Data.Decoding
import FileTriage.Proofs.Definitions.TomlRoundTrip
import FileTriage.Proofs.Toml.Integers

namespace FileTriage

open Toml (Fits fits_list_iff fits_table_iff)
open Value (bind_eq_ok_iff map_eq_ok_iff fill_eq_ok_iff of_collect_eq_ok exists_of_mapM_eq_ok)

theorem Toml.Fits.parts {v : Value} (h : Fits v) : ∀ w ∈ v.parts, Fits w := by
  cases v with
  | table fields => exact List.forall_mem_map.2 (fits_table_iff.1 h)
  | list items => exact fits_list_iff.1 h
  | moment t => exact List.forall_mem_cons.2 ⟨trivial, by simp⟩
  | _ => exact fun w hw => absurd hw List.not_mem_nil

theorem refusedOr_eq_ok_iff {α : Type} {x : Except ConstructionError α} {a : α} :
    refusedOr x = .ok a ↔ x = .ok a := by
  cases x with
  | error e => simp [refusedOr]
  | ok b => simp [refusedOr]

theorem require_eq_ok_iff {σ α : Type} {c : Value.Collected σ} {name : String} {slot : Option α}
    {a : α} : c.require name slot = .ok a ↔ slot = some a := by
  cases slot with
  | none => simp [Value.Collected.require]
  | some b => simp [Value.Collected.require]

/-- What a list of values gives comes from its items, which fit if the list does. -/
theorem exists_of_asList_eq_ok {α : Type} {read : Value → Except DataFault α} {v : Value}
    {results : List α} (hv : Fits v) (h : v.asList read = .ok results) {a : α} (ha : a ∈ results) :
    ∃ w, Fits w ∧ read w = .ok a := by
  cases v with
  | list items =>
    obtain ⟨w, hw, hread⟩ := exists_of_mapM_eq_ok h ha
    exact ⟨w, fits_list_iff.1 hv w hw, hread⟩
  | _ => cases h

/-! ## Conditions -/

/-- The size that a condition compares with, if it does, has a place in a signed number of 64
bits. -/
def Condition.SizeFits (c : Condition) : Prop :=
  ∀ size, c = .fileSize size → size.value.toNat ≤ Nat.pow 2 63 - 1

/-- The value of a draft, if there is one, has a place in a signed number of 64 bits. -/
def ConditionDraft.SizeFits (d : ConditionDraft) : Prop :=
  ∀ w, d.value = some w → w.toNat ≤ Nat.pow 2 63 - 1

theorem toNat_le_of_asWord64 {v : Value} (hv : Fits v) {w : UInt64} (h : v.asWord64 = .ok w) :
    w.toNat ≤ Nat.pow 2 63 - 1 := by
  rw [Value.asWord64, map_eq_ok_iff] at h
  obtain ⟨n, hn, rfl⟩ := h
  cases v with
  | int i =>
    have hbound : Nat.pow 2 63 - 1 = 9223372036854775807 := by decide
    have hfit : Toml.isInteger i = true := hv
    simp only [Toml.isInteger, Bool.and_eq_true, decide_eq_true_eq] at hfit
    rw [Value.asNat] at hn
    split at hn
    · next hin =>
      cases hn
      have hlt : i.toNat < UInt64.size := by omega
      rw [UInt64.toNat_ofNat_of_lt' hlt, hbound]
      omega
    · cases hn
  | _ => cases hn

/-- No field of a condition but its value brings in a size. -/
theorem ConditionDraft.SizeFits.set (name : String) (v : Value) (d d' : ConditionDraft)
    (hv : Fits v) (hd : d.SizeFits) (h : ConditionDraft.set name v d = .ok d') : d'.SizeFits := by
  unfold ConditionDraft.set at h
  split at h
  case h_8 =>
    -- the value itself, which is an integer of the text
    obtain ⟨slot, hslot, rfl⟩ := map_eq_ok_iff.1 h
    obtain ⟨-, w, hw, rfl⟩ := fill_eq_ok_iff.1 hslot
    rintro w' ⟨⟩
    exact toNat_le_of_asWord64 hv hw
  case h_10 =>
    -- a field that a condition does not have
    cases h
    exact hd
  all_goals
    obtain ⟨slot, -, rfl⟩ := map_eq_ok_iff.1 h
    exact hd

theorem FileSizeCondition.value_of_build {comparator : SizeComparator} {unit : SizeUnit}
    {value : UInt64} {c : FileSizeCondition} (h : build comparator unit value = .ok c) :
    c.value = value := by
  rw [build] at h
  split at h
  · cases h
    rfl
  · cases h

theorem Condition.sizeFits_of_ofFields {kind : ConditionKind}
    {collected : Value.Collected ConditionDraft} (hd : collected.draft.SizeFits) {c : Condition}
    (h : Condition.ofFields kind collected = .ok c) : c.SizeFits := by
  rintro size rfl
  -- only from the fields of its own kind is a condition on the size built
  cases kind with
  | fileSize =>
    obtain ⟨comparator, -, h⟩ := bind_eq_ok_iff.1 h
    obtain ⟨unit, -, h⟩ := bind_eq_ok_iff.1 h
    obtain ⟨value, hvalue, h⟩ := bind_eq_ok_iff.1 h
    obtain ⟨built, hbuilt, heq⟩ := map_eq_ok_iff.1 h
    cases heq
    rw [FileSizeCondition.value_of_build (refusedOr_eq_ok_iff.1 hbuilt)]
    exact hd value (require_eq_ok_iff.1 hvalue)
  | name =>
    obtain ⟨scope, -, h⟩ := bind_eq_ok_iff.1 h
    obtain ⟨pattern, -, h⟩ := bind_eq_ok_iff.1 h
    obtain ⟨built, -, heq⟩ := map_eq_ok_iff.1 h
    cases heq
  | parentPath =>
    obtain ⟨pattern, -, h⟩ := bind_eq_ok_iff.1 h
    obtain ⟨built, -, heq⟩ := map_eq_ok_iff.1 h
    cases heq
  | mimeType =>
    obtain ⟨mimeType, -, h⟩ := bind_eq_ok_iff.1 h
    obtain ⟨built, -, heq⟩ := map_eq_ok_iff.1 h
    cases heq
  | metaType =>
    obtain ⟨built, -, heq⟩ := map_eq_ok_iff.1 h
    cases heq
  | date =>
    obtain ⟨built, -, heq⟩ := map_eq_ok_iff.1 h
    cases heq

theorem Condition.sizeFits_of_ofContent {kind : ConditionKind} {v : Value} (hv : Fits v)
    {c : Condition} (h : Condition.ofContent kind v = .ok c) : c.SizeFits := by
  obtain ⟨collected, hcollected, h⟩ := bind_eq_ok_iff.1 h
  have hdraft : collected.draft.SizeFits := of_collect_eq_ok ConditionDraft.SizeFits.set hv.parts
    (by rintro w ⟨⟩) hcollected
  exact sizeFits_of_ofFields hdraft h

/-- The fields of a condition without its kind are among its fields. -/
theorem mem_of_splitKind {kind : Option ConditionKind} {fields others : List (String × Value)}
    {found : ConditionKind} (h : splitKind kind fields = .ok (found, others)) {f : String × Value}
    (hf : f ∈ others) : f ∈ fields := by
  induction fields generalizing kind others with
  | nil =>
    cases kind with
    | none => cases h
    | some kind =>
      cases h
      cases hf
  | cons g fields ih =>
    obtain ⟨name, v⟩ := g
    rw [splitKind] at h
    split at h
    · cases h
    split at h
    · obtain ⟨kind', -, h⟩ := bind_eq_ok_iff.1 h
      exact List.mem_cons_of_mem _ (ih h hf)
    split at h
    · obtain ⟨⟨kind', rest⟩, hrest, h⟩ := bind_eq_ok_iff.1 h
      cases h
      rcases List.mem_cons.1 hf with rfl | hf
      · exact List.mem_cons_self
      · exact List.mem_cons_of_mem _ (ih hrest hf)
    · cases h

theorem Condition.sizeFits_of_ofValue {v : Value} (hv : Fits v) {c : Condition}
    (h : Condition.ofValue v = .ok c) : c.SizeFits := by
  unfold Condition.ofValue at h
  split at h
  · next fields =>
    obtain ⟨⟨kind, others⟩, hsplit, h⟩ := bind_eq_ok_iff.1 h
    refine sizeFits_of_ofContent (fits_table_iff.2 fun f hf => ?_) h
    exact fits_table_iff.1 hv f (mem_of_splitKind hsplit hf)
  · cases h
  · next first items =>
    obtain ⟨kind, -, h⟩ := bind_eq_ok_iff.1 h
    split at h
    · refine sizeFits_of_ofContent (fits_list_iff.2 fun w hw => ?_) h
      exact fits_list_iff.1 hv w (List.mem_cons_of_mem _ hw)
    · cases h
  · cases h
  · cases h

/-! ## Rules -/

/-- The sizes of a rule fit. -/
def Rule.SizesFit (r : Rule) : Prop := ∀ c ∈ r.conditions, c.SizeFits

/-- The sizes of the conditions that have been collected fit. -/
def RuleDraft.SizesFit (d : RuleDraft) : Prop := ∀ c ∈ d.conditions.getD [], c.SizeFits

theorem RuleDraft.SizesFit.set (name : String) (v : Value) (d d' : RuleDraft) (hv : Fits v)
    (hd : d.SizesFit) (h : RuleDraft.set name v d = .ok d') : d'.SizesFit := by
  unfold RuleDraft.set at h
  split at h
  case h_4 =>
    -- the conditions, each of which is an item of the list
    obtain ⟨slot, hslot, rfl⟩ := map_eq_ok_iff.1 h
    obtain ⟨-, conditions, hconditions, rfl⟩ := fill_eq_ok_iff.1 hslot
    intro c hc
    obtain ⟨w, hw, hread⟩ := exists_of_asList_eq_ok hv hconditions hc
    exact Condition.sizeFits_of_ofValue hw hread
  case h_5 =>
    cases h
    exact hd
  all_goals
    obtain ⟨slot, -, rfl⟩ := map_eq_ok_iff.1 h
    exact hd

theorem Rule.sizesFit_of_ofValue {surplus : Except DataFault Unit} {v : Value} (hv : Fits v)
    {r : Rule} (h : Rule.ofValue surplus v = .ok r) : r.SizesFit := by
  obtain ⟨collected, hcollected, h⟩ := bind_eq_ok_iff.1 h
  obtain ⟨id, -, h⟩ := bind_eq_ok_iff.1 h
  obtain ⟨name, -, h⟩ := bind_eq_ok_iff.1 h
  have hdraft : collected.draft.SizesFit :=
    of_collect_eq_ok RuleDraft.SizesFit.set hv.parts (by rintro c ⟨⟩) hcollected
  intro c hc
  obtain ⟨-, -, -, hperm⟩ := Rule.build_eq_ok_iff.1 (refusedOr_eq_ok_iff.1 h)
  exact hdraft c (hperm.mem_iff.2 hc)

/-! ## Sets -/

/-- The sizes of a set fit. -/
def FilesSet.SizesFit (s : FilesSet) : Prop := ∀ r ∈ s.rules.values, r.SizesFit

/-- The sizes of the rules that have been collected fit. -/
def SetDraft.SizesFit (d : SetDraft) : Prop := ∀ r ∈ d.rules.getD [], r.SizesFit

theorem SetDraft.SizesFit.set {surplus : Except DataFault Unit} (name : String) (v : Value)
    (d d' : SetDraft) (hv : Fits v) (hd : d.SizesFit)
    (h : SetDraft.set surplus name v d = .ok d') : d'.SizesFit := by
  unfold SetDraft.set at h
  split at h
  case h_7 =>
    -- the rules, each of which is an item of the list
    obtain ⟨slot, hslot, rfl⟩ := map_eq_ok_iff.1 h
    obtain ⟨-, rules, hrules, rfl⟩ := fill_eq_ok_iff.1 hslot
    intro r hr
    obtain ⟨w, hw, hread⟩ := exists_of_asList_eq_ok hv hrules hr
    exact Rule.sizesFit_of_ofValue hw hread
  case h_8 =>
    cases h
    exact hd
  all_goals
    obtain ⟨slot, -, rfl⟩ := map_eq_ok_iff.1 h
    exact hd

/-- The sizes of a set that has been read fit, if the integers of the value fit. -/
theorem FilesSet.sizesFit_of_ofValue {surplus : Except DataFault Unit} {v : Value} (hv : Fits v)
    {s : FilesSet} (h : FilesSet.ofValue surplus v = .ok s) : s.SizesFit := by
  obtain ⟨collected, hcollected, h⟩ := bind_eq_ok_iff.1 h
  obtain ⟨name, -, h⟩ := bind_eq_ok_iff.1 h
  have hdraft : collected.draft.SizesFit :=
    of_collect_eq_ok SetDraft.SizesFit.set hv.parts (by rintro r ⟨⟩) hcollected
  intro r hr
  obtain ⟨-, hperm⟩ := FilesSet.build_eq_ok_iff.1 (refusedOr_eq_ok_iff.1 h)
  exact hdraft r (hperm.mem_iff.2 hr)

end FileTriage
