/-
Size conditions in exact numbers.

What a size is compared with is the product of value and unit, cut off at the greatest size that a
file can have (`toNat_threshold`).  No file is larger than that, so the cut makes a difference to the
files of the greatest size alone: where the product is out of reach, they are as large as what they
are compared with, and no longer smaller (`holds_min_iff`).  The three comparisons stay exclusive.
-/
import FileTriage.Proofs.Rules.Form
import Mathlib.Algebra.Ring.Nat

namespace FileTriage

/-! ## Comparing numbers -/

namespace SizeComparator

variable {comparator : SizeComparator} {size amount greatest : Nat}

/-- The comparison, of numbers of any magnitude. -/
def Holds : SizeComparator → Nat → Nat → Prop
  | greaterThan, size, amount => amount < size
  | lessThan, size, amount => size < amount
  | equal, size, amount => size = amount

/-- Exactly one comparison holds between two numbers. -/
theorem existsUnique_holds (size amount : Nat) :
    ∃! comparator : SizeComparator, comparator.Holds size amount := by
  rcases Nat.lt_trichotomy size amount with hlt | heq | hgt
  · refine ⟨lessThan, hlt, fun other hother => ?_⟩
    cases other with
    | greaterThan => exact absurd hlt (Nat.lt_asymm hother)
    | lessThan => rfl
    | equal => exact absurd hother (Nat.ne_of_lt hlt)
  · refine ⟨equal, heq, fun other hother => ?_⟩
    cases other with
    | greaterThan => exact absurd heq (Nat.ne_of_gt hother)
    | lessThan => exact absurd heq (Nat.ne_of_lt hother)
    | equal => rfl
  · refine ⟨greaterThan, hgt, fun other hother => ?_⟩
    cases other with
    | greaterThan => rfl
    | lessThan => exact absurd hgt (Nat.lt_asymm hother)
    | equal => exact absurd hother (Nat.ne_of_gt hgt)

/-- To cut off what is compared with at the greatest size changes the answer for that size alone,
and no answer to whether a size is greater. -/
theorem holds_min_iff (hsize : size ≤ greatest) :
    (comparator.Holds size (min amount greatest) ↔ comparator.Holds size amount) ↔
      ¬ (greatest < amount ∧ size = greatest ∧ comparator ≠ greaterThan) := by
  cases comparator with
  | greaterThan =>
    have hsame : min amount greatest < size ↔ amount < size := by omega
    simp [Holds, hsame]
  | lessThan =>
    have hsame : (size < min amount greatest ↔ size < amount) ↔
        ¬ (greatest < amount ∧ size = greatest) := by omega
    simpa [Holds] using hsame
  | equal =>
    have hsame : (size = min amount greatest ↔ size = amount) ↔
        ¬ (greatest < amount ∧ size = greatest) := by omega
    simpa [Holds] using hsame

/-- Where the amount is out of reach, a file of the greatest size counts as being just as large. -/
theorem holds_min_greatest_iff (h : greatest < amount) :
    comparator.Holds greatest (min amount greatest) ↔ comparator = equal := by
  rw [Nat.min_eq_right (Nat.le_of_lt h)]
  cases comparator with
  | greaterThan => simp [Holds]
  | lessThan => simp [Holds]
  | equal => simp [Holds]

end SizeComparator

/-! ## Conditions -/

namespace FileSizeCondition

variable {comparator : SizeComparator} {unit : SizeUnit} {value : UInt64} {c : FileSizeCondition}
  {f : FileRecord}

/-- A condition is built from its own comparison, unit and value. -/
theorem build_eq_ok_iff :
    build comparator unit value = .ok c ↔
      c.comparator = comparator ∧ c.unit = unit ∧ c.value = value := by
  constructor
  · intro h
    rw [build] at h
    split at h
    · cases h
      exact ⟨rfl, rfl, rfl⟩
    · cases h
  · rintro ⟨rfl, rfl, rfl⟩
    exact c.build_self

/-- The size that is compared with is the exact product, as far as sizes go. -/
theorem toNat_threshold (c : FileSizeCondition) :
    c.threshold.toNat = min (c.value.toNat * c.unit.byteCount) (2 ^ 64 - 1) := by
  have hlt : min (c.value.toNat * c.unit.byteCount) (UInt64.size - 1) < UInt64.size :=
    Nat.lt_of_le_of_lt (Nat.min_le_right _ _) (by decide)
  have hsize : UInt64.size - 1 = 2 ^ 64 - 1 := rfl
  rw [threshold, UInt64.toNat_ofNat_of_lt' hlt, hsize]

theorem passes_iff :
    c.passes f = true ↔
      c.comparator.Holds f.size.toNat (min (c.value.toNat * c.unit.byteCount) (2 ^ 64 - 1)) := by
  -- a comparison of machine words is that of the numbers they stand for
  rw [← toNat_threshold, passes]
  cases c.comparator with
  | greaterThan => rw [decide_eq_true_eq, UInt64.lt_iff_toNat_lt, SizeComparator.Holds]
  | lessThan => rw [decide_eq_true_eq, UInt64.lt_iff_toNat_lt, SizeComparator.Holds]
  | equal => rw [decide_eq_true_eq, ← UInt64.toNat_inj, SizeComparator.Holds]

/-- A positive value is accepted with every comparison, and one of them holds of a file. -/
theorem existsUnique_passes (unit : SizeUnit) (f : FileRecord) (hvalue : 0 < value) :
    (∀ comparator, ∃ c, build comparator unit value = .ok c) ∧
      ∃! comparator, ∃ c, build comparator unit value = .ok c ∧ c.passes f = true := by
  have hne : value ≠ 0 := by
    rintro rfl
    exact absurd hvalue (by decide)
  have hbuild : ∀ comparator, ∃ c, build comparator unit value = .ok c := fun comparator =>
    ⟨⟨comparator, unit, value, .inl hne⟩, build_eq_ok_iff.2 ⟨rfl, rfl, rfl⟩⟩
  have hpasses : ∀ comparator, (∃ c, build comparator unit value = .ok c ∧ c.passes f = true) ↔
      comparator.Holds f.size.toNat (min (value.toNat * unit.byteCount) (2 ^ 64 - 1)) := by
    intro comparator
    obtain ⟨c, hc⟩ := hbuild comparator
    obtain ⟨rfl, rfl, rfl⟩ := build_eq_ok_iff.1 hc
    simp only [hc, Except.ok.injEq, exists_eq_left', passes_iff]
  -- what is compared with may be cut off: one comparison holds of any two numbers
  refine ⟨hbuild, ?_⟩
  simp only [hpasses]
  exact SizeComparator.existsUnique_holds _ _

/-- A condition that has been built from a comparison, a unit and a value answers as the comparison
of the size with the exact product does, with these exceptions and no others: where the product is
greater than every size, a file of the greatest size is not taken to be smaller, and is taken to be
of that size.  For every unit and positive value, all three comparisons are accepted and exactly one
holds of a file. -/
theorem compares_exact_product (unit : SizeUnit) (value : UInt64) (f : FileRecord) :
    (∀ comparator c, build comparator unit value = .ok c →
      ((c.passes f = true ↔ comparator.Holds f.size.toNat (value.toNat * unit.byteCount)) ↔
        ¬ (2 ^ 64 - 1 < value.toNat * unit.byteCount ∧ f.size.toNat = 2 ^ 64 - 1 ∧
          comparator ≠ .greaterThan)) ∧
      (2 ^ 64 - 1 < value.toNat * unit.byteCount → f.size.toNat = 2 ^ 64 - 1 →
        (c.passes f = true ↔ comparator = .equal))) ∧
    (0 < value →
      (∀ comparator, ∃ c, build comparator unit value = .ok c) ∧
      ∃! comparator, ∃ c, build comparator unit value = .ok c ∧ c.passes f = true) := by
  refine ⟨fun comparator c hbuild => ?_, existsUnique_passes unit f⟩
  obtain ⟨rfl, rfl, rfl⟩ := build_eq_ok_iff.1 hbuild
  have hsize : f.size.toNat ≤ 2 ^ 64 - 1 := Nat.le_pred_of_lt f.size.toNat_lt
  refine ⟨?_, fun hbeyond hgreatest => ?_⟩
  · rw [passes_iff]
    exact SizeComparator.holds_min_iff hsize
  · rw [passes_iff, hgreatest]
    exact SizeComparator.holds_min_greatest_iff hbeyond

/-- A file of the greatest size. -/
def greatestFile : FileRecord :=
  { id := 1, name := "a", extension := "", parentPath := "/", size := 18446744073709551615 }

/-- A file of the greatest size is smaller than 2^34 gigabytes, which are one byte more, and yet it
passes as being of that size and not as being smaller. -/
theorem greatest_file_passes_as_equal :
    ∃ smaller same, build .lessThan .gigabytes 17179869184 = .ok smaller ∧
      build .equal .gigabytes 17179869184 = .ok same ∧
      smaller.passes greatestFile = false ∧ same.passes greatestFile = true := by
  obtain ⟨hanswers, haccepted⟩ := compares_exact_product .gigabytes 17179869184 greatestFile
  obtain ⟨hbuild, -⟩ := haccepted (by decide)
  obtain ⟨smaller, hsmaller⟩ := hbuild .lessThan
  obtain ⟨same, hsame⟩ := hbuild .equal
  have hnot := (hanswers .lessThan smaller hsmaller).2 (by decide) (by decide)
  have hequal := (hanswers .equal same hsame).2 (by decide) (by decide)
  refine ⟨smaller, same, hsmaller, hsame, ?_, hequal.2 rfl⟩
  rw [← Bool.not_eq_true, hnot]
  decide

end FileSizeCondition

end FileTriage
