/-
The values of a line are read as they were written.

A value that the writer puts after its key is a word, an integer, a string or an empty list.  The
digits of an integer could start a date or a time as well; they do not, because neither a hyphen
nor a colon follows them.
-/
import FileTriage.Data.Toml.Reader
import FileTriage.Proofs.Data.Decimal
import FileTriage.Proofs.Toml.Strings

namespace FileTriage.Toml

open Decimal (isDigit_of_mem_toDigits value_toDigits exists_cons_toDigits head?_toDigits)

/-! ## Digits -/

theorem readMoreDigits_append {digits : List Char} (rest : List Char)
    (h : ∀ c ∈ digits, c.isDigit = true) :
    readMoreDigits Char.isDigit (digits ++ '\n' :: rest) = some (digits, '\n' :: rest) := by
  induction digits with
  | nil =>
    show readMoreDigits Char.isDigit ('\n' :: rest) = _
    simp [readMoreDigits]
  | cons c digits ih =>
    have hc := h c List.mem_cons_self
    have hne : c ≠ '_' := by
      rintro rfl
      exact absurd hc (by decide)
    rw [List.cons_append, readMoreDigits, if_pos hc, ih fun d hd => h d (List.mem_cons_of_mem _ hd)]
    · rfl
    all_goals simp [hne]

/-- The digits of a number are read without its sign. -/
theorem readWhole_toDigits (n : Nat) (rest : List Char) :
    readWhole (Nat.toDigits 10 n ++ '\n' :: rest) = some (Nat.toDigits 10 n, '\n' :: rest) := by
  by_cases hzero : n = 0
  · subst hzero
    rfl
  · obtain ⟨c, digits, hdigits, hall⟩ := exists_cons_toDigits n
    have hc := hall c List.mem_cons_self
    have hhead : c ≠ '0' := by
      have := head?_toDigits hzero
      rw [hdigits] at this
      simpa using this
    rw [hdigits, List.cons_append, readWhole, readDigits, if_pos hc,
      readMoreDigits_append rest fun d hd => hall d (List.mem_cons_of_mem _ hd)]
    · rfl
    · simp [hhead]

/-! ## Integers -/

/-- Digits at the end of a line are the whole part of an integer. -/
theorem readDecimal_toDigits (negative : Bool) (start rest : List Char) (n : Nat) (i : Int)
    (hi : i = if negative then -(n : Int) else n) (hfit : isInteger i = true) :
    readDecimal negative start (Nat.toDigits 10 n ++ '\n' :: rest) =
      some (.int i, '\n' :: rest) := by
  simp [readDecimal, readWhole_toDigits, value_toDigits, ← hi, hfit]

/-- What follows digits that have been read is a digit or the end of the line. -/
theorem readFixed_ne {digits : List Char} (h : ∀ c ∈ digits, c.isDigit = true) (count : Nat)
    (rest : List Char) {c : Char} (hc : c.isDigit = false) (hn : c ≠ '\n') (n : Nat)
    (after : List Char) : readFixed count (digits ++ '\n' :: rest) ≠ some (n, c :: after) := by
  intro heq
  rw [readFixed] at heq
  split at heq
  · next hlen =>
    -- what follows the digits that have been read is a digit, if there are more of them
    have hafter : (digits ++ '\n' :: rest).drop count = c :: after := by
      simpa using (Prod.mk.inj (Option.some.inj heq)).2
    by_cases hle : count ≤ digits.length
    · rw [List.drop_append_of_le_length hle] at hafter
      cases hdrop : digits.drop count with
      | nil =>
        rw [hdrop] at hafter
        exact hn (List.cons.inj hafter).1.symm
      | cons d more =>
        rw [hdrop] at hafter
        have hd : d ∈ digits := List.mem_of_mem_drop (hdrop ▸ List.mem_cons_self)
        have hdigit := h d hd
        rw [(List.cons.inj hafter).1, hc] at hdigit
        exact absurd hdigit (by decide)
    · -- too few digits come before the end of the line
      obtain ⟨k, hk⟩ : ∃ k, count - digits.length = k + 1 := ⟨count - digits.length - 1, by omega⟩
      have htaken : ((digits ++ '\n' :: rest).take count).takeWhile Char.isDigit = digits := by
        rw [List.take_append, List.take_of_length_le (by omega), hk, List.take_succ_cons,
          List.takeWhile_append_of_pos h, List.takeWhile_cons_of_neg (by decide), List.append_nil]
      rw [htaken] at hlen
      omega
  · cases heq

theorem readFixed_of_head {count : Nat} {c : Char} (rest : List Char) (hc : c.isDigit = false)
    (hcount : 0 < count) : readFixed count (c :: rest) = none := by
  obtain ⟨k, rfl⟩ : ∃ k, count = k + 1 := ⟨count - 1, by omega⟩
  rw [readFixed, List.take_succ_cons, List.takeWhile_cons_of_neg (by simp [hc]), if_neg (by simp)]

/-- Digits at the end of a line are no hour. -/
theorem readHour_digits {digits : List Char} (h : ∀ c ∈ digits, c.isDigit = true)
    (rest : List Char) : readHour (digits ++ '\n' :: rest) = none := by
  rw [readHour]
  split
  · next n after heq =>
    exfalso
    simp only [readTwo, Option.bind_eq_bind, Option.bind_eq_some_iff] at heq
    obtain ⟨⟨m, more⟩, hfixed, hif⟩ := heq
    split at hif
    -- an hour would have a colon after its two digits
    · have hmore : more = ':' :: after := (Prod.mk.inj (Option.some.inj hif)).2
      exact readFixed_ne h 2 rest (by decide) (by decide) m after (hmore ▸ hfixed)
    · cases hif
  · rfl

/-- Digits at the end of a line are a decimal number. -/
theorem readNumeric_digits {digits : List Char} (h : ∀ c ∈ digits, c.isDigit = true)
    (hne : digits ≠ []) (rest : List Char) :
    readNumeric (digits ++ '\n' :: rest) =
      readDecimal false (digits ++ '\n' :: rest) (digits ++ '\n' :: rest) := by
  -- the second character is a digit or the end of the line, and no letter of a base
  obtain ⟨c, d, more, htext, hc, hd⟩ : ∃ c d more, digits ++ '\n' :: rest = c :: d :: more ∧
      c.isDigit = true ∧ (d.isDigit = true ∨ d = '\n') := by
    cases digits with
    | nil => exact absurd rfl hne
    | cons c digits =>
      have hc := h c List.mem_cons_self
      cases digits with
      | nil => exact ⟨c, '\n', rest, rfl, hc, .inr rfl⟩
      | cons d digits => exact ⟨c, d, digits ++ '\n' :: rest, rfl, hc, .inl (h d (by simp))⟩
  unfold readNumeric
  split
  · next year after heq =>
    -- a date would have a hyphen after the four digits of its year
    exact absurd heq (readFixed_ne h 4 rest (by decide) (by decide) year after)
  · rw [readHour_digits h rest]
    dsimp only
    rw [htext]
    split
    all_goals first | rfl | (exfalso; simp_all)

/-- Digits after a hyphen are a decimal number. -/
theorem readNumeric_hyphen {text : List Char} (h : ∀ c ∈ text.head?, c.isDigit = true) :
    readNumeric ('-' :: text) = readDecimal true ('-' :: text) text := by
  have hhour : readHour ('-' :: text) = none := by
    rw [readHour, readTwo, readFixed_of_head text (by decide) (by decide)]
    rfl
  unfold readNumeric
  rw [readFixed_of_head text (by decide) (by decide), hhour]
  dsimp only
  split
  · next heq => simp at heq
  · next heq => simp at heq
  · next heq => simp at heq
  · next after heq =>
    obtain rfl : text = after := by simpa using heq
    -- a digit comes first, and so neither of the two words
    split
    · exact absurd (h 'i' (by simp)) (by decide)
    · exact absurd (h 'n' (by simp)) (by decide)
    · rfl
  · next heq => simp at heq
  · next hne _ => exact absurd rfl (hne text)

/-- An integer is read as it was written. -/
theorem readNumeric_toString {i : Int} (hfit : isInteger i = true) (rest : List Char) :
    readNumeric ((toString i).toList ++ '\n' :: rest) = some (.int i, '\n' :: rest) := by
  rw [Int.toString_eq_repr, Int.repr_eq_if]
  by_cases hi : 0 ≤ i
  -- a number that is not negative has no sign
  · rw [if_pos hi, Nat.toList_repr,
      readNumeric_digits (fun c => isDigit_of_mem_toDigits) Nat.toDigits_ne_nil]
    exact readDecimal_toDigits false _ rest i.toNat i (Int.toNat_of_nonneg hi).symm hfit
  · obtain ⟨c, digits, hdigits, hall⟩ := exists_cons_toDigits (-i).toNat
    have hc := hall c List.mem_cons_self
    rw [if_neg hi, String.toList_append, Nat.toList_repr]
    show readNumeric ('-' :: (Nat.toDigits 10 (-i).toNat ++ '\n' :: rest)) = _
    rw [readNumeric_hyphen (by rw [hdigits]; simpa using hc)]
    exact readDecimal_toDigits true _ rest (-i).toNat i (by simp; omega) hfit

theorem exists_cons_toString (i : Int) :
    ∃ c tail, (toString i).toList = c :: tail ∧ (c.isDigit = true ∨ c = '-') := by
  rw [Int.toString_eq_repr, Int.repr_eq_if]
  by_cases hi : 0 ≤ i
  · obtain ⟨c, digits, hdigits, hall⟩ := exists_cons_toDigits i.toNat
    refine ⟨c, digits, ?_, .inl (hall c List.mem_cons_self)⟩
    rw [if_pos hi, Nat.toList_repr, hdigits]
  · refine ⟨'-', (-i).toNat.repr.toList, ?_, .inr rfl⟩
    rw [if_neg hi, String.toList_append]
    rfl

/-! ## Values -/

theorem exists_cons_quoted (text : String) :
    ∃ c tail, (quoted text).toList = c :: tail ∧ (c = '"' ∨ c = '\'') := by
  unfold quoted
  cases StringForm.of text.toList with
  | basic => exact ⟨_, _, toList_writeIn_basic _, .inl rfl⟩
  | literal => exact ⟨_, _, toList_writeIn_literal _, .inr rfl⟩
  | longBasic => exact ⟨_, _, toList_writeIn_longBasic _, .inl rfl⟩
  | longLiteral => exact ⟨_, _, toList_writeIn_longLiteral _, .inr rfl⟩

/-- The text of a value starts with no blank. -/
theorem exists_cons_inlineText? {v : Value} {text : String} (h : inlineText? v = some text) :
    ∃ c tail, text.toList = c :: tail ∧ isSpace c = false := by
  cases v with
  | bool b =>
    cases b <;> cases h
    · exact ⟨'f', _, rfl, by decide⟩
    · exact ⟨'t', _, rfl, by decide⟩
  | int i =>
    rw [inlineText?] at h
    split at h
    · cases h
      obtain ⟨c, tail, hcons, hc⟩ := exists_cons_toString i
      refine ⟨c, tail, hcons, ?_⟩
      rcases hc with hc | rfl
      · by_contra hspace
        simp only [isSpace, Bool.not_eq_false, Bool.or_eq_true, decide_eq_true_eq] at hspace
        rcases hspace with rfl | rfl
        · exact absurd hc (by decide)
        · exact absurd hc (by decide)
      · decide
    · cases h
  | text s =>
    cases h
    obtain ⟨c, tail, hcons, rfl | rfl⟩ := exists_cons_quoted s
    · exact ⟨_, tail, hcons, by decide⟩
    · exact ⟨_, tail, hcons, by decide⟩
  | list items =>
    cases items with
    | nil => cases h; exact ⟨'[', _, rfl, by decide⟩
    | cons item items => cases h
  | null => cases h
  | real => cases h
  | moment => cases h
  | table => cases h
  | unreadable => cases h

/-- A value at the end of a line is read as it was written. -/
theorem readValue_inlineText? {v : Value} {text : String} (h : inlineText? v = some text)
    (fuel : Nat) (rest : List Char) :
    readValue (fuel + 2) 0 (text.toList ++ '\n' :: rest) = some (v, '\n' :: rest) := by
  cases v with
  | bool b =>
    cases b <;> cases h
    · have hlength : "false".length = 5 := rfl
      simp [readValue, readWord, hlength]
    · have hlength : "true".length = 4 := rfl
      simp [readValue, readWord, hlength]
  | int i =>
    rw [inlineText?] at h
    split at h
    · next hfit =>
      cases h
      obtain ⟨c, tail, hcons, hc⟩ := exists_cons_toString i
      have hread := readNumeric_toString hfit rest
      rw [hcons, List.cons_append] at hread ⊢
      rw [readValue]
      · exact hread
      -- a digit or a hyphen starts none of the other values
      all_goals
        intro more heq
        rw [(List.cons.inj heq).1] at hc
        exact absurd hc (by decide)
    · cases h
  | text s =>
    cases h
    obtain ⟨c, tail, hcons, hc⟩ := exists_cons_quoted s
    have hread := readString_quoted s ('\n' :: rest) (by simp) (by simp)
    rw [hcons, List.cons_append] at hread ⊢
    rcases hc with rfl | rfl
    · rw [readValue, hread]
      simp
    · rw [readValue, hread]
      simp
  | list items =>
    cases items with
    | nil =>
      cases h
      simp [readValue, readItems, skipLines, skipSpace, isSpace, readNewline, depthLimit]
    | cons item items => cases h
  | null => cases h
  | real => cases h
  | moment => cases h
  | table => cases h
  | unreadable => cases h

end FileTriage.Toml
