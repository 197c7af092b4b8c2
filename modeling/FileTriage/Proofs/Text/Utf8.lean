/-
Decoding inverts encoding.

The bytes of a character lead the decoder from between characters to between characters again,
whatever comes after them: the leading byte tells how many bytes are owed, and the range for the
first of these is met because the number is a code point and not smaller than its length asks.
-/
import FileTriage.Text.Utf8
import Mathlib.Data.List.Basic

namespace FileTriage.Text.Utf8

/-! ## Leading bytes -/

theorem toNat_ofNat_of_lt {n : Nat} (h : n < 256) : (UInt8.ofNat n).toNat = n := by
  rw [UInt8.toNat_ofNat', Nat.mod_eq_of_lt h]

/-- A byte below the first leading byte is a character. -/
theorem openAt_of_lt_128 (index : Nat) {b : UInt8} (h : b.toNat < 128) :
    openAt index b = .whole (Char.ofNat b.toNat) := by
  have hb : b < 0x80 := UInt8.lt_iff_toNat_lt.2 h
  rw [openAt, if_pos hb]

/-- A leading byte of a character of two bytes. -/
theorem openAt_of_two (index : Nat) {b : UInt8} (hlow : 0xC2 ≤ b.toNat) (hhigh : b.toNat ≤ 0xDF) :
    openAt index b = .leading ⟨index, b.toNat - 0xC0, 1, 0x80, 0xBF⟩ := by
  simp only [openAt, UInt8.lt_iff_toNat_lt, UInt8.le_iff_toNat_le, UInt8.reduceToNat]
  rw [if_neg (by omega), if_pos ⟨hlow, hhigh⟩]

/-- A leading byte of a character of three bytes; the first rules out overlong forms, and the one
before the surrogates rules those out. -/
theorem openAt_of_three (index : Nat) {b : UInt8} (hlow : 0xE0 ≤ b.toNat) (hhigh : b.toNat ≤ 0xEF) :
    openAt index b = .leading ⟨index, b.toNat - 0xE0, 2,
      if b.toNat = 0xE0 then 0xA0 else 0x80, if b.toNat = 0xED then 0x9F else 0xBF⟩ := by
  simp only [openAt, UInt8.lt_iff_toNat_lt, UInt8.le_iff_toNat_le, ← UInt8.toNat_inj,
    UInt8.reduceToNat]
  rw [if_neg (by omega), if_neg (by omega)]
  by_cases hfirst : b.toNat = 0xE0
  · simp [hfirst]
  · by_cases hsurrogate : b.toNat = 0xED
    · simp [hsurrogate]
    · rw [if_neg hfirst, if_neg hsurrogate, if_pos (by omega), if_neg hfirst, if_neg hsurrogate]

/-- A leading byte of a character of four bytes; the first rules out overlong forms, and the last
rules out numbers above the last code point. -/
theorem openAt_of_four (index : Nat) {b : UInt8} (hlow : 0xF0 ≤ b.toNat) (hhigh : b.toNat ≤ 0xF4) :
    openAt index b = .leading ⟨index, b.toNat - 0xF0, 3,
      if b.toNat = 0xF0 then 0x90 else 0x80, if b.toNat = 0xF4 then 0x8F else 0xBF⟩ := by
  simp only [openAt, UInt8.lt_iff_toNat_lt, UInt8.le_iff_toNat_le, ← UInt8.toNat_inj,
    UInt8.reduceToNat]
  rw [if_neg (by omega), if_neg (by omega), if_neg (by omega), if_neg (by omega), if_neg (by omega)]
  by_cases hfirst : b.toNat = 0xF0
  · simp [hfirst]
  · by_cases hlast : b.toNat = 0xF4
    · simp [hlast]
    · rw [if_neg hfirst, if_pos (by omega), if_neg hfirst, if_neg hlast]

/-! ## Continuation bytes -/

/-- The byte that carries six bits of a character. -/
def continuation (n : Nat) : UInt8 := UInt8.ofNat (n % 64 + 0x80)

theorem toNat_continuation (n : Nat) : (continuation n).toNat = n % 64 + 0x80 :=
  toNat_ofNat_of_lt (by omega)

section Continuation

variable {low high : UInt8} {n : Nat}

theorem continuation_mem (hlow : low.toNat ≤ n % 64 + 0x80) (hhigh : n % 64 + 0x80 ≤ high.toNat) :
    low ≤ continuation n ∧ continuation n ≤ high := by
  rw [UInt8.le_iff_toNat_le, UInt8.le_iff_toNat_le, toNat_continuation]
  exact ⟨hlow, hhigh⟩

/-- The last byte that is owed closes the character. -/
theorem decodeFrom_last (index start value : Nat) (rest : List UInt8)
    (hlow : low.toNat ≤ n % 64 + 0x80) (hhigh : n % 64 + 0x80 ≤ high.toNat) :
    decodeFrom index (some ⟨start, value, 1, low, high⟩) (continuation n :: rest) =
      (decodeFrom (index + 1) none rest).map (Char.ofNat (value * 64 + n % 64) :: ·) := by
  have hbits : (continuation n).toNat - 0x80 = n % 64 := by
    rw [toNat_continuation, Nat.add_sub_cancel]
  rw [decodeFrom, if_pos (continuation_mem hlow hhigh), if_pos rfl, Pending.extend, hbits]

/-- A byte that is owed and not the last one leaves the character open. -/
theorem decodeFrom_more (index start value owed : Nat) (rest : List UInt8)
    (hlow : low.toNat ≤ n % 64 + 0x80) (hhigh : n % 64 + 0x80 ≤ high.toNat) :
    decodeFrom index (some ⟨start, value, owed + 2, low, high⟩) (continuation n :: rest) =
      decodeFrom (index + 1) (some ⟨start, value * 64 + n % 64, owed + 1, 0x80, 0xBF⟩) rest := by
  have hbits : (continuation n).toNat - 0x80 = n % 64 := by
    rw [toNat_continuation, Nat.add_sub_cancel]
  have howed : ¬ owed + 2 = 1 := by omega
  rw [decodeFrom, if_pos (continuation_mem hlow hhigh), if_neg howed, Pending.extend, hbits]
  rfl

end Continuation

/-- A leading byte opens a character. -/
theorem decodeFrom_leading {index : Nat} {b : UInt8} {p : Pending} (rest : List UInt8)
    (h : openAt index b = .leading p) :
    decodeFrom index none (b :: rest) = decodeFrom (index + 1) (some p) rest := by
  rw [decodeFrom, h]

/-! ## Characters -/

theorem not_surrogate (c : Char) : c.toNat < 0xD800 ∨ 0xDFFF < c.toNat := by
  have hvalid := c.valid
  have hval : c.val.toNat = c.toNat := rfl
  simp only [UInt32.isValidChar, Nat.isValidChar, hval] at hvalid
  omega

/-- The bytes of a character by its length. -/
theorem utf8EncodeChar_cases (c : Char) :
    (c.toNat < 0x80 ∧ String.utf8EncodeChar c = [UInt8.ofNat c.toNat]) ∨
    (0x80 ≤ c.toNat ∧ c.toNat < 0x800 ∧ String.utf8EncodeChar c =
      [UInt8.ofNat (c.toNat / 64 + 0xC0), continuation c.toNat]) ∨
    (0x800 ≤ c.toNat ∧ c.toNat < 0x10000 ∧ String.utf8EncodeChar c =
      [UInt8.ofNat (c.toNat / 4096 + 0xE0), continuation (c.toNat / 64), continuation c.toNat]) ∨
    (0x10000 ≤ c.toNat ∧ c.toNat < 0x110000 ∧ String.utf8EncodeChar c =
      [UInt8.ofNat (c.toNat / 262144 + 0xF0), continuation (c.toNat / 4096),
        continuation (c.toNat / 64), continuation c.toNat]) := by
  have hval : c.val.toNat = c.toNat := rfl
  have hbound : c.toNat < 0x110000 := by
    have := c.valid
    simp only [UInt32.isValidChar, Nat.isValidChar] at this
    omega
  -- `utf8EncodeChar` masks the leading bits as well, which changes nothing in any of the cases
  simp only [String.utf8EncodeChar, hval, continuation]
  by_cases h1 : c.toNat ≤ 0x7F
  · left
    exact ⟨by omega, by rw [if_pos h1]⟩
  by_cases h2 : c.toNat ≤ 0x7FF
  · right; left
    refine ⟨by omega, by omega, ?_⟩
    rw [if_neg h1, if_pos h2, Nat.mod_eq_of_lt (by omega : c.toNat / 64 < 0x20)]
  by_cases h3 : c.toNat ≤ 0xFFFF
  · right; right; left
    refine ⟨by omega, by omega, ?_⟩
    rw [if_neg h1, if_neg h2, if_pos h3, Nat.mod_eq_of_lt (by omega : c.toNat / 4096 < 0x10)]
  · right; right; right
    refine ⟨by omega, hbound, ?_⟩
    rw [if_neg h1, if_neg h2, if_neg h3, Nat.mod_eq_of_lt (by omega : c.toNat / 262144 < 0x08)]

/-- An ASCII character is one byte. -/
theorem utf8EncodeChar_of_lt {c : Char} (h : c.toNat < 0x80) :
    String.utf8EncodeChar c = [UInt8.ofNat c.toNat] := by
  rcases utf8EncodeChar_cases c with ⟨-, hbytes⟩ | ⟨hlow, -⟩ | ⟨hlow, -⟩ | ⟨hlow, -⟩
  · exact hbytes
  all_goals omega

theorem le_toNat_ofNat {n : Nat} (hlow : 0x80 ≤ n) (hhigh : n < 256) :
    0x80 ≤ (UInt8.ofNat n).toNat := by
  rw [toNat_ofNat_of_lt hhigh]
  exact hlow

theorem le_toNat_continuation (n : Nat) : 0x80 ≤ (continuation n).toNat := by
  rw [toNat_continuation]
  omega

/-- No byte of another character is ASCII. -/
theorem le_of_mem_utf8EncodeChar {c : Char} (h : 0x80 ≤ c.toNat) {b : UInt8}
    (hb : b ∈ String.utf8EncodeChar c) : 0x80 ≤ b.toNat := by
  rcases utf8EncodeChar_cases c with ⟨hlow, -⟩ | ⟨-, hhigh, hbytes⟩ | ⟨-, hhigh, hbytes⟩ |
    ⟨-, hhigh, hbytes⟩
  · omega
  -- the first byte says how many there are, and the others only continue it
  all_goals
    rw [hbytes] at hb
    simp only [List.mem_cons, List.not_mem_nil, or_false] at hb
  · rcases hb with rfl | rfl
    · exact le_toNat_ofNat (by omega) (by omega)
    · exact le_toNat_continuation _
  · rcases hb with rfl | rfl | rfl
    · exact le_toNat_ofNat (by omega) (by omega)
    · exact le_toNat_continuation _
    · exact le_toNat_continuation _
  · rcases hb with rfl | rfl | rfl | rfl
    · exact le_toNat_ofNat (by omega) (by omega)
    · exact le_toNat_continuation _
    · exact le_toNat_continuation _
    · exact le_toNat_continuation _

theorem decodeFrom_one {c : Char} (h : c.toNat < 0x80) (index : Nat) (rest : List UInt8) :
    decodeFrom index none (UInt8.ofNat c.toNat :: rest) =
      (decodeFrom (index + 1) none rest).map (c :: ·) := by
  have hb := toNat_ofNat_of_lt (by omega : c.toNat < 256)
  have hopen := openAt_of_lt_128 index (b := UInt8.ofNat c.toNat) (by rw [hb]; exact h)
  rw [hb, Char.ofNat_toNat c] at hopen
  rw [decodeFrom, hopen]

theorem decodeFrom_two {c : Char} (hlow : 0x80 ≤ c.toNat) (hhigh : c.toNat < 0x800) (index : Nat)
    (rest : List UInt8) :
    decodeFrom index none
        (UInt8.ofNat (c.toNat / 64 + 0xC0) :: continuation c.toNat :: rest) =
      (decodeFrom (index + 1 + 1) none rest).map (c :: ·) := by
  have hb := toNat_ofNat_of_lt (by omega : c.toNat / 64 + 0xC0 < 256)
  have hopen := openAt_of_two index (b := UInt8.ofNat (c.toNat / 64 + 0xC0))
    (by rw [hb]; omega) (by rw [hb]; omega)
  rw [hb, Nat.add_sub_cancel] at hopen
  have hvalue : c.toNat / 64 * 64 + c.toNat % 64 = c.toNat := by omega
  rw [decodeFrom_leading _ hopen, decodeFrom_last _ _ _ _ (by simp) (by simp; omega), hvalue,
    Char.ofNat_toNat]

theorem decodeFrom_three {c : Char} (hlow : 0x800 ≤ c.toNat) (hhigh : c.toNat < 0x10000)
    (index : Nat) (rest : List UInt8) :
    decodeFrom index none
        (UInt8.ofNat (c.toNat / 4096 + 0xE0) :: continuation (c.toNat / 64) ::
          continuation c.toNat :: rest) =
      (decodeFrom (index + 1 + 1 + 1) none rest).map (c :: ·) := by
  have hb := toNat_ofNat_of_lt (by omega : c.toNat / 4096 + 0xE0 < 256)
  have hopen := openAt_of_three index (b := UInt8.ofNat (c.toNat / 4096 + 0xE0))
    (by rw [hb]; omega) (by rw [hb]; omega)
  rw [hb, Nat.add_sub_cancel] at hopen
  -- below the range for the first continuation the form would be overlong
  have hmin : (if c.toNat / 4096 + 0xE0 = 0xE0 then 0xA0 else 0x80 : UInt8).toNat ≤
      c.toNat / 64 % 64 + 0x80 := by
    split <;> simp only [UInt8.reduceToNat] <;> omega
  -- above it the number would be a surrogate
  have hmax : c.toNat / 64 % 64 + 0x80 ≤
      (if c.toNat / 4096 + 0xE0 = 0xED then 0x9F else 0xBF : UInt8).toNat := by
    have := not_surrogate c
    split <;> simp only [UInt8.reduceToNat] <;> omega
  have hvalue : (c.toNat / 4096 * 64 + c.toNat / 64 % 64) * 64 + c.toNat % 64 = c.toNat := by omega
  rw [decodeFrom_leading _ hopen, decodeFrom_more _ _ _ 0 _ hmin hmax,
    decodeFrom_last _ _ _ _ (by simp) (by simp; omega), hvalue, Char.ofNat_toNat]

theorem decodeFrom_four {c : Char} (hlow : 0x10000 ≤ c.toNat) (hhigh : c.toNat < 0x110000)
    (index : Nat) (rest : List UInt8) :
    decodeFrom index none
        (UInt8.ofNat (c.toNat / 262144 + 0xF0) :: continuation (c.toNat / 4096) ::
          continuation (c.toNat / 64) :: continuation c.toNat :: rest) =
      (decodeFrom (index + 1 + 1 + 1 + 1) none rest).map (c :: ·) := by
  have hb := toNat_ofNat_of_lt (by omega : c.toNat / 262144 + 0xF0 < 256)
  have hopen := openAt_of_four index (b := UInt8.ofNat (c.toNat / 262144 + 0xF0))
    (by rw [hb]; omega) (by rw [hb]; omega)
  rw [hb, Nat.add_sub_cancel] at hopen
  -- below the range for the first continuation the form would be overlong
  have hmin : (if c.toNat / 262144 + 0xF0 = 0xF0 then 0x90 else 0x80 : UInt8).toNat ≤
      c.toNat / 4096 % 64 + 0x80 := by
    split <;> simp only [UInt8.reduceToNat] <;> omega
  -- above it the number would be no code point
  have hmax : c.toNat / 4096 % 64 + 0x80 ≤
      (if c.toNat / 262144 + 0xF0 = 0xF4 then 0x8F else 0xBF : UInt8).toNat := by
    split <;> simp only [UInt8.reduceToNat] <;> omega
  have hvalue : ((c.toNat / 262144 * 64 + c.toNat / 4096 % 64) * 64 + c.toNat / 64 % 64) * 64 +
      c.toNat % 64 = c.toNat := by omega
  rw [decodeFrom_leading _ hopen, decodeFrom_more _ _ _ 1 _ hmin hmax,
    decodeFrom_more _ _ _ 0 _ (by simp) (by simp; omega),
    decodeFrom_last _ _ _ _ (by simp) (by simp; omega), hvalue, Char.ofNat_toNat]

/-- The bytes of a character are read as that character. -/
theorem decodeFrom_utf8EncodeChar (c : Char) (index : Nat) (rest : List UInt8) :
    ∃ after, decodeFrom index none (String.utf8EncodeChar c ++ rest) =
      (decodeFrom after none rest).map (c :: ·) := by
  rcases utf8EncodeChar_cases c with ⟨h, hbytes⟩ | ⟨hlow, hhigh, hbytes⟩ | ⟨hlow, hhigh, hbytes⟩ |
    ⟨hlow, hhigh, hbytes⟩
  all_goals rw [hbytes]
  · exact ⟨_, decodeFrom_one h index rest⟩
  · exact ⟨_, decodeFrom_two hlow hhigh index rest⟩
  · exact ⟨_, decodeFrom_three hlow hhigh index rest⟩
  · exact ⟨_, decodeFrom_four hlow hhigh index rest⟩

/-! ## Text -/

theorem decodeFrom_flatMap (chars : List Char) (index : Nat) :
    decodeFrom index none (chars.flatMap String.utf8EncodeChar) = .ok chars := by
  induction chars generalizing index with
  | nil => rfl
  | cons c chars ih =>
    obtain ⟨after, hc⟩ :=
      decodeFrom_utf8EncodeChar c index (chars.flatMap String.utf8EncodeChar)
    rw [List.flatMap_cons, hc, ih after]
    rfl

theorem encode_append (s t : String) : encode (s ++ t) = encode s ++ encode t := by
  rw [encode, String.toList_append, List.flatMap_append]
  rfl

/-- ASCII bytes are read as their characters, whatever comes after them. -/
theorem exists_of_decodeFrom_ascii {ascii : List UInt8} (h : ∀ b ∈ ascii, b.toNat < 128)
    {index : Nat} {rest : List UInt8} {chars : List Char}
    (hread : decodeFrom index none (ascii ++ rest) = .ok chars) :
    ∃ tail, chars = ascii.map (fun b => Char.ofNat b.toNat) ++ tail := by
  induction ascii generalizing index chars with
  | nil => exact ⟨chars, rfl⟩
  | cons b ascii ih =>
    rw [List.cons_append, decodeFrom, openAt_of_lt_128 index (h b List.mem_cons_self)] at hread
    cases hmore : decodeFrom (index + 1) none (ascii ++ rest) with
    | error e =>
      rw [hmore] at hread
      cases hread
    | ok more =>
      rw [hmore] at hread
      cases hread
      obtain ⟨tail, htail⟩ := ih (fun b hb => h b (List.mem_cons_of_mem _ hb)) hmore
      exact ⟨tail, by rw [htail, List.map_cons, List.cons_append]⟩

theorem exists_of_decode_ascii {ascii rest : List UInt8} (h : ∀ b ∈ ascii, b.toNat < 128)
    {text : String} (hread : decode (ascii ++ rest) = .ok text) :
    ∃ tail, text.toList = ascii.map (fun b => Char.ofNat b.toNat) ++ tail := by
  rw [decode] at hread
  cases hchars : decodeFrom 0 none (ascii ++ rest) with
  | error e =>
    rw [hchars] at hread
    cases hread
  | ok chars =>
    rw [hchars] at hread
    cases hread
    rw [String.toList_ofList]
    exact exists_of_decodeFrom_ascii h hchars

/-- The bytes of a text are read as that text. -/
theorem decode_encode (text : String) : decode (encode text) = .ok text := by
  rw [decode, encode, decodeFrom_flatMap]
  show Except.ok (String.ofList text.toList) = Except.ok text
  rw [String.ofList_toList]

end FileTriage.Text.Utf8
