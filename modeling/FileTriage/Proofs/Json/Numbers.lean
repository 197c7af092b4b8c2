/-
Integers of JSON are read as they were written.

The reader takes all digits that follow each other, so an integer is read as itself where its digits
end: what stands behind it is no digit and goes on with no fraction and no exponent.
-/
import FileTriage.Data.Json.Reader
import FileTriage.Proofs.Data.Decimal
import FileTriage.Proofs.Text.Utf8

namespace FileTriage.Json

open Decimal (isDigit_of_mem_toDigits exists_cons_toDigits head?_toDigits value_toDigits)
open Text.Utf8 (encode)

/-! ## Digits as bytes -/

theorem toNat_of_isDigit {c : Char} (h : c.isDigit = true) : 48 ≤ c.toNat ∧ c.toNat ≤ 57 := by
  simp only [Char.isDigit, Bool.and_eq_true, decide_eq_true_eq, ge_iff_le, UInt32.le_iff_toNat_le]
    at h
  exact h

theorem toNat_byte {c : Char} (h : c.toNat < 256) : (byte c).toNat = c.toNat :=
  Text.Utf8.toNat_ofNat_of_lt h

theorem isDigit_byte {c : Char} (h : c.isDigit = true) : isDigit (byte c) = true := by
  obtain ⟨hlow, hhigh⟩ := toNat_of_isDigit h
  have hnat := toNat_byte (by omega : c.toNat < 256)
  have hzero : (byte '0').toNat = 48 := by decide
  have hnine : (byte '9').toNat = 57 := by decide
  simp only [isDigit, Bool.and_eq_true, decide_eq_true_eq, UInt8.le_iff_toNat_le, hnat, hzero,
    hnine]
  exact ⟨hlow, hhigh⟩

theorem encode_digits {digits : List Char} (h : ∀ c ∈ digits, c.isDigit = true) :
    digits.flatMap String.utf8EncodeChar = digits.map byte := by
  induction digits with
  | nil => rfl
  | cons c digits ih =>
    obtain ⟨-, hhigh⟩ := toNat_of_isDigit (h c List.mem_cons_self)
    rw [List.flatMap_cons, ih fun d hd => h d (List.mem_cons_of_mem _ hd),
      Text.Utf8.utf8EncodeChar_of_lt (by omega), List.map_cons]
    rfl

/-- The bytes of digits are worth as much as the digits. -/
theorem decimalValue_map_byte {digits : List Char} (h : ∀ c ∈ digits, c.isDigit = true) :
    decimalValue (digits.map byte) = Decimal.value digits := by
  rw [decimalValue, Decimal.value]
  generalize (0 : Nat) = sum
  induction digits generalizing sum with
  | nil => rfl
  | cons c digits ih =>
    have hc := h c List.mem_cons_self
    obtain ⟨-, hhigh⟩ := toNat_of_isDigit hc
    rw [List.map_cons, List.foldl_cons, List.foldl_cons, if_pos hc, toNat_byte (by omega)]
    exact ih (fun d hd => h d (List.mem_cons_of_mem _ hd)) _

/-! ## Reading -/

/-- What may follow a value in a list or a table: a comma, the end of the line, or nothing. -/
def Ends (rest : List UInt8) : Prop := ∀ b ∈ rest.head?, b = byte ',' ∨ b = byte '\n'

/-- Digits are taken up to what follows them. -/
theorem takeWhile_isDigit {digits : List UInt8} (h : ∀ b ∈ digits, isDigit b = true)
    {rest : List UInt8} (hrest : Ends rest) :
    (digits ++ rest).takeWhile isDigit = digits ∧ (digits ++ rest).dropWhile isDigit = rest := by
  have hstop : rest.takeWhile isDigit = [] ∧ rest.dropWhile isDigit = rest := by
    cases rest with
    | nil => exact ⟨rfl, rfl⟩
    | cons b rest =>
      have hb : ¬ isDigit b = true := by
        rcases hrest b rfl with rfl | rfl <;> decide
      exact ⟨List.takeWhile_cons_of_neg hb, List.dropWhile_cons_of_neg hb⟩
  rw [List.takeWhile_append_of_pos h, List.dropWhile_append_of_pos h, hstop.1, hstop.2,
    List.append_nil]
  exact ⟨rfl, rfl⟩

theorem numberValue_natural {whole : List UInt8} (h : decimalValue whole < UInt64.size)
    (literal : List UInt8) :
    numberValue false whole [] none literal = .int (decimalValue whole) := by
  rw [numberValue]
  exact if_pos (by simp [h])

/-- There is no negative zero among the integers. -/
theorem numberValue_negative {whole : List UInt8} (hne : decimalValue whole ≠ 0)
    (h : decimalValue whole ≤ UInt64.size / 2) (literal : List UInt8) :
    numberValue true whole [] none literal = .int (-(decimalValue whole)) := by
  rw [numberValue, if_neg (by simp), if_pos (by simp [hne, h])]

/-- Digits behind an optional hyphen are an integer where they end. -/
theorem readNumber_digits {bytes : List UInt8} {n : Nat} {rest : List UInt8} (hrest : Ends rest)
    (hsign : (if bytes.head? = some (byte '-') then bytes.drop 1 else bytes) =
      (Nat.toDigits 10 n).map byte ++ rest) :
    ∃ literal, readNumber bytes =
      (numberValue (bytes.head? = some (byte '-')) ((Nat.toDigits 10 n).map byte) [] none literal,
        some rest) := by
  have hdigits : ∀ b ∈ (Nat.toDigits 10 n).map byte, isDigit b = true := by
    intro b hb
    obtain ⟨c, hc, rfl⟩ := List.mem_map.1 hb
    exact isDigit_byte (isDigit_of_mem_toDigits hc)
  obtain ⟨htake, hdrop⟩ := takeWhile_isDigit hdigits hrest
  -- no zero comes before other digits
  have hzero : ¬ (((Nat.toDigits 10 n).map byte).isEmpty ||
      (((Nat.toDigits 10 n).map byte).head? = some (byte '0') &&
        1 < ((Nat.toDigits 10 n).map byte).length)) = true := by
    obtain ⟨c, digits, hcons, hall⟩ := exists_cons_toDigits n
    by_cases hn : n = 0
    · subst hn
      decide
    · have hc : c ≠ '0' := by
        have hfirst := head?_toDigits hn
        rw [hcons] at hfirst
        simpa using hfirst
      obtain ⟨-, hhigh⟩ := toNat_of_isDigit (hall c List.mem_cons_self)
      have hbyte : byte c ≠ byte '0' := by
        intro heq
        have hnat := congrArg UInt8.toNat heq
        rw [toNat_byte (by omega), toNat_byte (by decide)] at hnat
        exact hc (Char.toNat_inj.1 hnat)
      simp [hcons, hbyte]
  rw [readNumber]
  simp only [hsign, htake, hdrop, if_neg hzero]
  cases rest with
  | nil => exact ⟨_, rfl⟩
  | cons b rest =>
    have hpoint : b ≠ byte '.' := by
      rcases hrest b rfl with rfl | rfl <;> decide
    have hexponent : ¬ (b = byte 'e' ∨ b = byte 'E') := by
      rcases hrest b rfl with rfl | rfl <;> decide
    simp only [if_neg hpoint, if_neg hexponent]
    exact ⟨_, rfl⟩

/-- The bytes of an integer: its digits, after a hyphen if it is negative. -/
theorem encode_toString (i : Int) :
    encode (toString i) =
      (if 0 ≤ i then [] else [byte '-']) ++ (Nat.toDigits 10 i.natAbs).map byte := by
  have hdigits (n : Nat) : encode n.repr = (Nat.toDigits 10 n).map byte := by
    rw [encode, Nat.toList_repr, encode_digits fun c => isDigit_of_mem_toDigits]
  have hminus : encode "-" = [byte '-'] := by decide
  rw [Int.toString_eq_repr, Int.repr_eq_if]
  by_cases hi : 0 ≤ i
  · have habs : i.toNat = i.natAbs := by omega
    rw [if_pos hi, if_pos hi, hdigits, habs, List.nil_append]
  · have habs : (-i).toNat = i.natAbs := by omega
    rw [if_neg hi, if_neg hi, Text.Utf8.encode_append, hminus, hdigits, habs]

/-- The text of an integer starts with a digit or a hyphen. -/
theorem exists_cons_toString (i : Int) :
    ∃ b tail, encode (toString i) = b :: tail ∧ (b = byte '-' ∨ isDigit b = true) := by
  obtain ⟨c, digits, hcons, hall⟩ := exists_cons_toDigits i.natAbs
  rw [encode_toString, hcons]
  by_cases hi : 0 ≤ i
  · rw [if_pos hi]
    exact ⟨byte c, _, rfl, .inr (isDigit_byte (hall c List.mem_cons_self))⟩
  · rw [if_neg hi]
    exact ⟨byte '-', _, rfl, .inl rfl⟩

/-- The sign of an integer is its hyphen, and behind it are the digits. -/
theorem sign_toString (i : Int) (rest : List UInt8) :
    ((encode (toString i) ++ rest).head? = some (byte '-') ↔ i < 0) ∧
      (if (encode (toString i) ++ rest).head? = some (byte '-') then
        (encode (toString i) ++ rest).drop 1 else encode (toString i) ++ rest) =
          (Nat.toDigits 10 i.natAbs).map byte ++ rest := by
  by_cases hpos : 0 ≤ i
  · have hbytes : encode (toString i) = (Nat.toDigits 10 i.natAbs).map byte := by
      rw [encode_toString, if_pos hpos]
      rfl
    have hhead : ¬ (encode (toString i) ++ rest).head? = some (byte '-') := by
      obtain ⟨c, digits, hcons, hall⟩ := exists_cons_toDigits i.natAbs
      have hc := isDigit_byte (hall c List.mem_cons_self)
      rw [hbytes, hcons]
      intro heq
      rw [Option.some.inj heq] at hc
      exact absurd hc (by decide)
    rw [if_neg hhead, hbytes]
    exact ⟨⟨fun heq => absurd (hbytes ▸ heq) hhead, fun hneg => by omega⟩, rfl⟩
  · have hbytes : encode (toString i) = byte '-' :: (Nat.toDigits 10 i.natAbs).map byte := by
      rw [encode_toString, if_neg hpos]
      rfl
    have hhead : (encode (toString i) ++ rest).head? = some (byte '-') := by
      rw [hbytes]
      rfl
    rw [if_pos hhead, hbytes]
    exact ⟨⟨fun _ => by omega, fun _ => rfl⟩, rfl⟩

/-- Whether an integer has 64 bits, with a sign or without. -/
def IsInteger (i : Int) : Prop := -(UInt64.size / 2 : Nat) ≤ i ∧ i < UInt64.size

/-- An integer is read as it was written. -/
theorem readNumber_toString {i : Int} (hi : IsInteger i) {rest : List UInt8} (hrest : Ends rest) :
    readNumber (encode (toString i) ++ rest) = (.int i, some rest) := by
  obtain ⟨hlow, hhigh⟩ := hi
  obtain ⟨hhead, hsign⟩ := sign_toString i rest
  obtain ⟨literal, hread⟩ := readNumber_digits hrest hsign
  have hvalue : decimalValue ((Nat.toDigits 10 i.natAbs).map byte) = i.natAbs := by
    rw [decimalValue_map_byte fun c => isDigit_of_mem_toDigits, value_toDigits]
  by_cases hneg : i < 0
  · have habs : -(i.natAbs : Int) = i := by omega
    rw [hread, decide_eq_true (hhead.2 hneg), numberValue_negative (by omega) (by omega), hvalue,
      habs]
  · have habs : (i.natAbs : Int) = i := by omega
    rw [hread, decide_eq_false fun heq => hneg (hhead.1 heq), numberValue_natural (by omega), hvalue,
      habs]

end FileTriage.Json
