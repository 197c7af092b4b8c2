/-
Strings of JSON are read as they were written.

The reader takes bytes, and decodes those that it has taken at the closing quote.  So a character is
read by taking its bytes, in whichever way it has been written, and all that it needs is one step
for each byte of the input.
-/
import FileTriage.Data.Json.Reader
import FileTriage.Data.Json.Writer
import FileTriage.Proofs.Text.Utf8

namespace FileTriage.Json

open Text.Utf8 (encode)

/-! ## Characters between quotes -/

/-- A byte that stands for itself between quotes. -/
def IsPlain (b : UInt8) : Prop := b ≠ byte '"' ∧ b ≠ byte '\\' ∧ ¬ b < 0x20

/-- What stands for a character between quotes. -/
inductive Written (c : Char) : List UInt8 → Prop where
  /-- A backslash and a letter. -/
  | short {e b : UInt8} (hletter : e ≠ byte 'u') (hescape : shortEscape? e = some b)
      (hbyte : String.utf8EncodeChar c = [b]) : Written c [byte '\\', e]
  /-- The number of the character in hexadecimal. -/
  | number {high low : UInt8} (hlt : c.toNat < 0x80)
      (hdigits : ∀ rest, readHex4 (byte '0' :: byte '0' :: high :: low :: rest) =
        some (c.toNat, rest)) :
      Written c [byte '\\', byte 'u', byte '0', byte '0', high, low]
  /-- The character itself. -/
  | plain (h : ∀ b ∈ String.utf8EncodeChar c, IsPlain b) : Written c (String.utf8EncodeChar c)

theorem hexDigit?_hexDigit {n : Nat} (h : n < 16) :
    ∃ b, String.utf8EncodeChar (hexDigit n) = [b] ∧ hexDigit? b = some n := by
  have hall : ∀ n < 16, (String.utf8EncodeChar (hexDigit n)).map hexDigit? = [some n] := by decide
  have hn := hall n h
  rw [List.map_eq_singleton_iff] at hn
  exact hn

/-- The bytes of a character that stands for itself stand for themselves. -/
theorem isPlain_of_mem_utf8EncodeChar {c : Char} (hquote : c ≠ '"') (hslash : c ≠ '\\')
    (hcontrol : ¬ c.toNat < 0x20) {b : UInt8} (hb : b ∈ String.utf8EncodeChar c) : IsPlain b := by
  have hquote' : (byte '"').toNat = '"'.toNat := by decide
  have hslash' : (byte '\\').toNat = '\\'.toNat := by decide
  by_cases hlt : c.toNat < 0x80
  · -- an ASCII character is its byte
    rw [Text.Utf8.utf8EncodeChar_of_lt hlt, List.mem_singleton] at hb
    have hnat : b.toNat = c.toNat := by rw [hb, Text.Utf8.toNat_ofNat_of_lt (by omega)]
    refine ⟨?_, ?_, ?_⟩
    · rintro rfl
      exact hquote (Char.toNat_inj.1 (hnat.symm.trans hquote'))
    · rintro rfl
      exact hslash (Char.toNat_inj.1 (hnat.symm.trans hslash'))
    · rw [UInt8.lt_iff_toNat_lt, hnat]
      exact hcontrol
  · -- no byte of another character is ASCII, as the quote, the backslash and the controls are
    have hnat := Text.Utf8.le_of_mem_utf8EncodeChar (by omega) hb
    refine ⟨?_, ?_, ?_⟩
    · rintro rfl
      exact absurd hnat (by decide)
    · rintro rfl
      exact absurd hnat (by decide)
    · rw [UInt8.lt_iff_toNat_lt]
      simp only [UInt8.reduceToNat]
      omega

theorem written_escaped (c : Char) : Written c ((escaped c).flatMap String.utf8EncodeChar) := by
  unfold escaped
  -- seven characters have a letter of their own
  split
  · subst_vars; exact .short (by decide) (by decide) rfl
  split
  · subst_vars; exact .short (by decide) (by decide) rfl
  split
  · subst_vars; exact .short (by decide) (by decide) rfl
  split
  · subst_vars; exact .short (by decide) (by decide) rfl
  split
  · subst_vars; exact .short (by decide) (by decide) rfl
  split
  · subst_vars; exact .short (by decide) (by decide) rfl
  split
  · subst_vars; exact .short (by decide) (by decide) rfl
  -- the other controls are written as numbers, and the rest as itself
  split
  · next hcontrol =>
    obtain ⟨high, hhigh, hhigh'⟩ := hexDigit?_hexDigit (by omega : c.toNat / 16 < 16)
    obtain ⟨low, hlow, hlow'⟩ := hexDigit?_hexDigit (by omega : c.toNat % 16 < 16)
    have hzero : hexDigit? (byte '0') = some 0 := by decide
    have hsum : c.toNat / 16 * 16 + c.toNat % 16 = c.toNat := by omega
    have hnumber : Written c [byte '\\', byte 'u', byte '0', byte '0', high, low] := by
      refine .number (by omega) ?_
      intro rest
      simp [readHex4, hzero, hhigh', hlow', hsum]
    have hbytes : (['\\', 'u', '0', '0', hexDigit (c.toNat / 16),
        hexDigit (c.toNat % 16)].flatMap String.utf8EncodeChar) =
          [byte '\\', byte 'u', byte '0', byte '0', high, low] := by
      simp only [List.flatMap_cons, List.flatMap_nil, hhigh, hlow]
      rfl
    rw [hbytes]
    exact hnumber
  · next hquote hslash _ _ _ _ _ hcontrol =>
    rw [List.flatMap_singleton]
    exact .plain fun b hb => isPlain_of_mem_utf8EncodeChar hquote hslash hcontrol hb

/-! ## Reading -/

theorem readString_of_isPlain {b : UInt8} (h : IsPlain b) (fuel : Nat) (read rest : List UInt8) :
    readString (fuel + 1) read true (b :: rest) = readString fuel (b :: read) true rest := by
  rw [readString.eq_def]
  simp only [if_neg h.1, if_neg h.2.1, if_neg h.2.2]

/-- Bytes that stand for themselves are taken one after the other. -/
theorem readString_plain {bytes : List UInt8} (h : ∀ b ∈ bytes, IsPlain b) (read rest : List UInt8)
    {fuel : Nat} (hfuel : (bytes ++ rest).length < fuel) :
    ∃ left, rest.length < left ∧
      readString fuel read true (bytes ++ rest) = readString left (bytes.reverse ++ read) true rest
      := by
  induction bytes generalizing read fuel with
  | nil => exact ⟨fuel, hfuel, rfl⟩
  | cons b bytes ih =>
    obtain ⟨k, rfl⟩ : ∃ k, fuel = k + 1 := ⟨fuel - 1, by omega⟩
    obtain ⟨left, hleft, hread⟩ := ih (fun b hb => h b (List.mem_cons_of_mem _ hb)) (b :: read)
      (by simpa using hfuel)
    refine ⟨left, hleft, ?_⟩
    rw [List.cons_append, readString_of_isPlain (h b List.mem_cons_self), hread,
      List.reverse_cons, List.append_assoc, List.singleton_append]

/-- The reader takes the bytes of a character, in whichever way it has been written. -/
theorem Written.readString {c : Char} {written : List UInt8} (h : Written c written)
    (read rest : List UInt8) {fuel : Nat} (hfuel : (written ++ rest).length < fuel) :
    ∃ left, rest.length < left ∧
      readString fuel read true (written ++ rest) =
        Json.readString left ((String.utf8EncodeChar c).reverse ++ read) true rest := by
  have hquote : byte '\\' ≠ byte '"' := by decide
  cases h with
  | @short e b hletter hescape hbyte =>
    obtain ⟨k, rfl⟩ : ∃ k, fuel = k + 1 := ⟨fuel - 1, by omega⟩
    refine ⟨k, by simp at hfuel; omega, ?_⟩
    rw [hbyte, List.cons_append, List.cons_append, List.nil_append, Json.readString.eq_def]
    simp only [if_neg hquote, if_pos, if_neg hletter, hescape]
    rfl
  | @number high low hlt hdigits =>
    obtain ⟨k, rfl⟩ : ∃ k, fuel = k + 1 := ⟨fuel - 1, by omega⟩
    refine ⟨k, by simp at hfuel; omega, ?_⟩
    simp only [List.cons_append, List.nil_append]
    rw [Json.readString.eq_def]
    simp only [if_neg hquote, if_pos, hdigits]
    -- the number is too small for either half of a surrogate pair
    rw [if_neg (by omega), if_neg (by omega), Char.ofNat_toNat]
  | plain h => exact readString_plain h read rest hfuel

/-- The characters of a text are read one after the other. -/
theorem readString_flatMap_escaped (chars : List Char) (read rest : List UInt8) {fuel : Nat}
    (hfuel : ((chars.flatMap escaped).flatMap String.utf8EncodeChar ++ rest).length < fuel) :
    ∃ left, rest.length < left ∧
      readString fuel read true ((chars.flatMap escaped).flatMap String.utf8EncodeChar ++ rest) =
        readString left ((chars.flatMap String.utf8EncodeChar).reverse ++ read) true rest := by
  induction chars generalizing read fuel with
  | nil => exact ⟨fuel, hfuel, rfl⟩
  | cons c chars ih =>
    simp only [List.flatMap_cons, List.flatMap_append, List.append_assoc] at hfuel ⊢
    obtain ⟨mid, hmid, hc⟩ := (written_escaped c).readString read _ hfuel
    obtain ⟨left, hleft, hchars⟩ := ih ((String.utf8EncodeChar c).reverse ++ read) hmid
    refine ⟨left, hleft, ?_⟩
    rw [hc, hchars, List.reverse_append, List.append_assoc]

/-- The bytes of a text in quotes. -/
theorem encode_quoted (text : String) :
    encode (quoted text) = byte '"' ::
      ((text.toList.flatMap escaped).flatMap String.utf8EncodeChar ++ [byte '"']) := by
  have hquote : encode "\"" = [byte '"'] := by decide
  rw [quoted, Text.Utf8.encode_append, Text.Utf8.encode_append, hquote, encode,
    String.toList_ofList]
  rfl

/-- A text in quotes is read as it was written. -/
theorem readString_quoted (text : String) (rest : List UInt8) :
    ∃ tail, encode (quoted text) ++ rest = byte '"' :: tail ∧
      rest.length < tail.length ∧
      readString (tail.length + 1) [] true tail = some (some text, rest) := by
  refine ⟨(text.toList.flatMap escaped).flatMap String.utf8EncodeChar ++ byte '"' :: rest, ?_, ?_,
    ?_⟩
  · rw [encode_quoted]
    simp
  · simp only [List.length_append, List.length_cons]
    omega
  · obtain ⟨left, hleft, hread⟩ :=
      readString_flatMap_escaped text.toList [] (byte '"' :: rest) (Nat.lt_succ_self _)
    obtain ⟨k, rfl⟩ : ∃ k, left = k + 1 := ⟨left - 1, by omega⟩
    have htaken : ((text.toList.flatMap String.utf8EncodeChar).reverse ++ []).reverse =
        encode text := by simp [encode]
    rw [hread, readString.eq_def]
    simp only [if_pos, htaken, Text.Utf8.decode_encode]

end FileTriage.Json
