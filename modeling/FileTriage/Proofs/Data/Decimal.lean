/-
Digits of natural numbers.

The digits that a number is written with are decimal digits, none of them is a zero that could be
left out, and together they are worth the number.
-/
import FileTriage.Data.Decimal
import Mathlib.Data.List.Basic

namespace FileTriage.Decimal

/-- Digits count for what they are worth. -/
theorem value_eq_ofDigitChars {digits : List Char} (h : ∀ c ∈ digits, c.isDigit = true) :
    value digits = Nat.ofDigitChars 10 digits 0 := by
  rw [value, Nat.ofDigitChars_eq_foldl]
  generalize (0 : Nat) = sum
  induction digits generalizing sum with
  | nil => rfl
  | cons c digits ih =>
    have hc := h c List.mem_cons_self
    rw [List.foldl_cons, List.foldl_cons, if_pos hc, Nat.mul_comm,
      ih fun d hd => h d (List.mem_cons_of_mem _ hd)]

theorem isDigit_of_mem_toDigits {n : Nat} {c : Char} (h : c ∈ Nat.toDigits 10 n) :
    c.isDigit = true :=
  Nat.isDigit_of_mem_toDigits (by decide) (by decide) h

theorem value_toDigits (n : Nat) : value (Nat.toDigits 10 n) = n := by
  rw [value_eq_ofDigitChars fun c => isDigit_of_mem_toDigits, Nat.ofDigitChars_ten_toDigits]

theorem exists_cons_toDigits (n : Nat) :
    ∃ c digits, Nat.toDigits 10 n = c :: digits ∧ ∀ d ∈ c :: digits, d.isDigit = true := by
  obtain ⟨c, digits, hdigits⟩ := List.exists_cons_of_ne_nil (Nat.toDigits_ne_nil (n := n) (b := 10))
  refine ⟨c, digits, hdigits, ?_⟩
  intro d hd
  rw [← hdigits] at hd
  exact isDigit_of_mem_toDigits hd

/-- No zero comes before the other digits of a number. -/
theorem head?_toDigits {n : Nat} (h : n ≠ 0) : (Nat.toDigits 10 n).head? ≠ some '0' := by
  induction n using Nat.strongRecOn with
  | ind n ih =>
    rw [Nat.toDigits_eq_if (by decide)]
    by_cases hlt : n < 10
    · have hdigit : ∀ m, m < 10 → m ≠ 0 → [Nat.digitChar m].head? ≠ some '0' := by decide
      rw [if_pos hlt]
      exact hdigit n hlt h
    · have hdiv := ih (n / 10) (by omega) (by omega)
      rw [if_neg hlt, List.head?_append_of_ne_nil _ Nat.toDigits_ne_nil]
      exact hdiv

end FileTriage.Decimal
