/-
Strings and keys are read as they were written.

Every form of a string is read back whatever the text is, as long as the form can hold it, and the
form that the writer takes always can.  What carries the long forms is the run of quotes that is
still open: no more than two of them stand before a character that is no quote or before the
closing quotes, and the reader gives just these back.
-/
import FileTriage.Data.Toml.Writer
import Mathlib.Data.List.Basic

namespace FileTriage.Toml

/-! ## Characters between double quotes -/

/-- What stands for a character between double quotes. -/
inductive Written (c : Char) : List Char → Prop where
  /-- A backslash and a letter. -/
  | short {e : Char} (h : shortEscape? e = some c) : Written c ['\\', e]
  /-- The number of the character in hexadecimal. -/
  | number {a b : Char} (h : hexChar? ['0', '0', a, b] = some c) :
      Written c ['\\', 'u', '0', '0', a, b]
  /-- The character itself. -/
  | plain (hcontrol : isControl c = false) (hquote : c ≠ '"') (hslash : c ≠ '\\') : Written c [c]

theorem hexDigit?_hexDigit {n : Nat} (h : n < 16) : Unicode.hexDigit? (hexDigit n) = some n := by
  revert n
  decide

/-- A character below 256 is read from its two hexadecimal digits. -/
theorem hexChar?_hexDigits {c : Char} (h : c.toNat < 256) :
    hexChar? ['0', '0', hexDigit (c.toNat / 16), hexDigit (c.toNat % 16)] = some c := by
  have hzero : Unicode.hexDigit? '0' = some 0 := by decide
  have hhigh := hexDigit?_hexDigit (by omega : c.toNat / 16 < 16)
  have hlow := hexDigit?_hexDigit (by omega : c.toNat % 16 < 16)
  have hsum : c.toNat / 16 * 16 + c.toNat % 16 = c.toNat := by omega
  have hvalid : c.toNat.isValidChar := c.valid
  simp [hexChar?, hzero, hhigh, hlow, hsum, hvalid, Char.ofNat_toNat]

theorem toNat_lt_of_isControl {c : Char} (h : isControl c = true) : c.toNat < 256 := by
  simp only [isControl, Bool.or_eq_true, Bool.and_eq_true, decide_eq_true_eq] at h
  rcases h with ⟨h, -⟩ | rfl
  · have : c.toNat < ' '.toNat := h
    have hspace : ' '.toNat = 32 := rfl
    omega
  · decide

theorem written_escaped {c : Char} (h : c ≠ '"') : Written c (escaped c) := by
  unfold escaped
  split
  · subst_vars; exact .short rfl
  split
  · subst_vars; exact .short rfl
  split
  · subst_vars; exact .short rfl
  split
  · subst_vars; exact .short rfl
  split
  · subst_vars; exact .short rfl
  split
  · subst_vars; exact .short rfl
  split
  · next hcontrol => exact .number (hexChar?_hexDigits (toNat_lt_of_isControl hcontrol))
  · next hslash hcontrol => exact .plain (by simpa using hcontrol) h hslash

theorem Written.exists_cons {c : Char} {w : List Char} (h : Written c w) :
    ∃ d tail, w = d :: tail ∧ d ≠ '"' ∧ isControl d = false := by
  cases h with
  | short h => exact ⟨'\\', _, rfl, by decide, by decide⟩
  | number h => exact ⟨'\\', _, rfl, by decide, by decide⟩
  | plain hcontrol hquote hslash => exact ⟨c, [], rfl, hquote, hcontrol⟩

/-- One character is read between double quotes. -/
theorem Written.readBasic {c : Char} {w : List Char} (h : Written c w) (rest : List Char) :
    readBasic (w ++ rest) = consTo c (Toml.readBasic rest) := by
  cases h with
  | @short e h =>
    unfold shortEscape? at h
    split at h <;> cases h <;> simp [Toml.readBasic, shortEscape?]
  | number h => simp [Toml.readBasic, h]
  | plain hcontrol hquote hslash =>
    show Toml.readBasic (c :: rest) = _
    rw [Toml.readBasic]
    all_goals simp_all

theorem exists_basicChars_false_cons (c : Char) (run : Nat) (text : List Char) :
    ∃ w, Written c w ∧ basicChars false run (c :: text) = w ++ basicChars false 0 text := by
  by_cases hc : c = '"'
  · refine ⟨['\\', '"'], .short (by rw [hc]; rfl), ?_⟩
    rw [basicChars, if_pos hc, Bool.false_and, if_neg (by decide)]
    rfl
  · refine ⟨escaped c, written_escaped hc, ?_⟩
    rw [basicChars, if_neg hc, Bool.and_false, if_neg (by decide)]

theorem readBasic_basicChars (text : List Char) (run : Nat) (rest : List Char) :
    readBasic (basicChars false run text ++ '"' :: rest) = some (text, rest) := by
  induction text generalizing run with
  | nil =>
    show readBasic ('"' :: rest) = _
    rw [readBasic]
  | cons c text ih =>
    obtain ⟨w, hw, hbody⟩ := exists_basicChars_false_cons c run text
    rw [hbody, List.append_assoc, hw.readBasic, ih 0]
    rfl

/-! ## Characters between three double quotes -/

/-- A reader that takes a quote for itself, unless it is the first of three, gives up to two quotes
back that come before another character. -/
theorem read_quotes {quote : Char} {read : Reader (List Char)} {run : Nat} (hrun : run ≤ 2)
    {d : Char} (hd : d ≠ quote) (rest : List Char)
    (hread : ∀ tail, (∀ more, tail ≠ quote :: quote :: more) →
      read (quote :: tail) = consTo quote (read tail)) :
    read (List.replicate run quote ++ d :: rest) =
      (read (d :: rest)).map fun (cs, after) => (List.replicate run quote ++ cs, after) := by
  -- neither one nor two quotes are the first of three, because another character follows
  have hone : read (quote :: d :: rest) = consTo quote (read (d :: rest)) :=
    hread (d :: rest) fun more heq => hd (List.cons.inj heq).1
  have htwo : read (quote :: quote :: d :: rest) = consTo quote (read (quote :: d :: rest)) :=
    hread (quote :: d :: rest) fun more heq => hd (List.cons.inj (List.cons.inj heq).2).1
  obtain rfl | rfl | rfl : run = 0 ∨ run = 1 ∨ run = 2 := by omega
  · simp
  · exact hone
  · show read (quote :: quote :: d :: rest) = _
    rw [htwo, hone, consTo, consTo, Option.map_map]
    rfl

/-- A character stands for itself, unless it is the first of three quotes, a control character or a
backslash. -/
theorem readLongBasic_cons {c : Char} {tail : List Char} (hc : isControl c = false ∨ c = '\n')
    (hslash : c ≠ '\\') (hquotes : c = '"' → ∀ more, tail ≠ '"' :: '"' :: more) :
    readLongBasic false (c :: tail) = consTo c (readLongBasic false tail) := by
  -- a carriage return is a control character, so no line end starts here
  have hreturn : c ≠ '\r' := by
    rintro rfl
    revert hc
    decide
  have hplain : (decide (c = '\\') || isControl c && decide (c ≠ '\n')) = false := by
    rcases hc with hc | hc <;> simp [hc, hslash]
  rw [readLongBasic, if_neg (by simp), hplain, if_neg (by simp)]
  all_goals simp_all

/-- One character is read between three double quotes. -/
theorem Written.readLongBasic {c : Char} {w : List Char} (h : Written c w) (rest : List Char) :
    readLongBasic false (w ++ rest) = consTo c (Toml.readLongBasic false rest) := by
  cases h with
  | @short e h =>
    unfold shortEscape? at h
    split at h <;> cases h <;>
      simp [Toml.readLongBasic, shortEscape?, continuesLine, skipSpace, isSpace, readNewline]
  | number h => simp [Toml.readLongBasic, h]
  | plain hcontrol hquote hslash =>
    exact readLongBasic_cons (.inl hcontrol) hslash fun hc => absurd hc hquote

/-- Up to two quotes before another character belong to the string. -/
theorem readLongBasic_quotes {run : Nat} (hrun : run ≤ 2) {d : Char} (hd : d ≠ '"')
    (rest : List Char) :
    readLongBasic false (List.replicate run '"' ++ d :: rest) =
      (readLongBasic false (d :: rest)).map fun (cs, after) =>
        (List.replicate run '"' ++ cs, after) := by
  apply read_quotes hrun hd rest
  intro tail hquotes
  exact readLongBasic_cons (.inl (by decide)) (by decide) fun _ => hquotes

/-- What stands for a character that does not prolong the run of quotes starts with no quote and is
read as the character. -/
theorem exists_basicChars_true_cons {c : Char} {run : Nat} (text : List Char)
    (h : ¬ (c = '"' ∧ run < 2)) :
    ∃ d w, basicChars true run (c :: text) = d :: w ++ basicChars true 0 text ∧ d ≠ '"' ∧
      ∀ more, readLongBasic false (d :: w ++ more) = consTo c (readLongBasic false more) := by
  by_cases hquote : c = '"'
  · have hrun : ¬ (true && decide (run < 2)) = true := by simpa [hquote] using h
    -- a quote after two others is written with a backslash
    have hw : Written c ['\\', '"'] := .short (by rw [hquote]; rfl)
    refine ⟨'\\', ['"'], ?_, by decide, hw.readLongBasic⟩
    rw [basicChars, if_pos hquote, if_neg hrun]
    rfl
  · by_cases hnewline : c = '\n'
    · refine ⟨'\n', [], ?_, by decide, fun more => ?_⟩
      · rw [basicChars, if_neg hquote, hnewline, if_pos (by decide)]
        rfl
      · show readLongBasic false ('\n' :: more) = _
        rw [hnewline, readLongBasic_cons (.inr rfl) (by decide) (by simp)]
    · have hw := written_escaped hquote
      obtain ⟨d, w, hcons, hd, -⟩ := hw.exists_cons
      refine ⟨d, w, ?_, hd, fun more => hcons ▸ hw.readLongBasic more⟩
      rw [basicChars, if_neg hquote, if_neg (by simp [hnewline]), hcons]

/-- The characters between three double quotes are read up to the closing quotes, with a run of
quotes that is still open before them. -/
theorem readLongBasic_basicChars (text : List Char) (run : Nat) (hrun : run ≤ 2) {rest : List Char}
    (hrest : rest.head? ≠ some '"') :
    readLongBasic false
        (List.replicate run '"' ++ (basicChars true run text ++ '"' :: '"' :: '"' :: rest)) =
      some (List.replicate run '"' ++ text, rest) := by
  induction text generalizing run with
  | nil =>
    obtain rfl | rfl | rfl : run = 0 ∨ run = 1 ∨ run = 2 := by omega
    all_goals cases rest <;> simp_all [basicChars, readLongBasic, List.replicate]
  | cons c text ih =>
    by_cases hquote : c = '"' ∧ run < 2
    · -- the run goes on
      obtain ⟨rfl, hlt⟩ := hquote
      have hbody : basicChars true run ('"' :: text) = '"' :: basicChars true (run + 1) text := by
        rw [basicChars, if_pos rfl, if_pos (by simp [hlt])]
      have h := ih (run + 1) (by omega)
      rw [List.replicate_succ', List.append_assoc, List.append_assoc] at h
      rw [hbody]
      exact h
    · -- the run ends before what stands for the character
      obtain ⟨d, w, hbody, hd, hread⟩ := exists_basicChars_true_cons text hquote
      have h := ih 0 (by omega)
      rw [List.replicate_zero, List.nil_append, List.nil_append] at h
      rw [hbody, List.append_assoc, List.cons_append, readLongBasic_quotes hrun hd,
        ← List.cons_append, hread, h]
      rfl

/-! ## Characters between single quotes -/

theorem readLiteral_append {text : List Char} (rest : List Char)
    (h : ∀ c ∈ text, isControl c = false ∧ c ≠ '\'') :
    readLiteral (text ++ '\'' :: rest) = some (text, rest) := by
  induction text with
  | nil =>
    show readLiteral ('\'' :: rest) = _
    rw [readLiteral]
  | cons c text ih =>
    obtain ⟨hcontrol, hquote⟩ := h c List.mem_cons_self
    rw [List.cons_append, readLiteral, if_neg (by simp [hcontrol]),
      ih fun d hd => h d (List.mem_cons_of_mem _ hd)]
    · rfl
    · exact hquote

/-- A character stands for itself, unless it is the first of three quotes or a control
character. -/
theorem readLongLiteral_cons {c : Char} {tail : List Char} (hc : needsEscape c = false)
    (hquotes : c = '\'' → ∀ more, tail ≠ '\'' :: '\'' :: more) :
    readLongLiteral (c :: tail) = consTo c (readLongLiteral tail) := by
  have hreturn : c ≠ '\r' := by
    rintro rfl
    exact absurd hc (by decide)
  have hplain : ¬ (isControl c && decide (c ≠ '\n')) = true := by
    rw [needsEscape] at hc
    rw [hc]
    decide
  rw [readLongLiteral, if_neg hplain]
  all_goals simp_all

/-- Up to two quotes before another character belong to the string. -/
theorem readLongLiteral_quotes {run : Nat} (hrun : run ≤ 2) {d : Char} (hd : d ≠ '\'')
    (rest : List Char) :
    readLongLiteral (List.replicate run '\'' ++ d :: rest) =
      (readLongLiteral (d :: rest)).map fun (cs, after) =>
        (List.replicate run '\'' ++ cs, after) := by
  apply read_quotes hrun hd rest
  intro tail hquotes
  exact readLongLiteral_cons (by decide) fun _ => hquotes

/-- A text without long runs of quotes is read up to the closing quotes, with a run of quotes that
is still open before it. -/
theorem readLongLiteral_append {text : List Char} (run : Nat) (hrun : run ≤ 2)
    {rest : List Char} (hrest : rest.head? ≠ some '\'')
    (hplain : ∀ c ∈ text, needsEscape c = false) (hruns : runsLong '\'' run text = false) :
    readLongLiteral
        (List.replicate run '\'' ++ (text ++ '\'' :: '\'' :: '\'' :: rest)) =
      some (List.replicate run '\'' ++ text, rest) := by
  induction text generalizing run with
  | nil =>
    obtain rfl | rfl | rfl : run = 0 ∨ run = 1 ∨ run = 2 := by omega
    all_goals cases rest <;> simp_all [readLongLiteral, List.replicate]
  | cons c text ih =>
    have hc := hplain c List.mem_cons_self
    have htext : ∀ d ∈ text, needsEscape d = false := fun d hd =>
      hplain d (List.mem_cons_of_mem _ hd)
    by_cases hquote : c = '\''
    · -- the run goes on
      subst hquote
      rw [runsLong, if_pos rfl, Bool.or_eq_false_iff, decide_eq_false_iff_not] at hruns
      have h := ih (run + 1) (by omega) htext hruns.2
      rw [List.replicate_succ', List.append_assoc, List.append_assoc] at h
      exact h
    · -- the run ends before the character
      rw [runsLong, if_neg hquote] at hruns
      have h := ih 0 (by omega) htext hruns
      rw [List.replicate_zero, List.nil_append, List.nil_append] at h
      rw [List.cons_append, readLongLiteral_quotes hrun hquote,
        readLongLiteral_cons hc fun hc => absurd hc hquote, h]
      rfl

/-! ## Strings -/

theorem skipNewline_of_head? {text : List Char} (hn : text.head? ≠ some '\n')
    (hr : text.head? ≠ some '\r') : skipNewline text = text := by
  unfold skipNewline readNewline
  split
  · next h =>
    split at h <;> simp_all
  · rfl

/-- A text that is written between single quotes has no control character and no single quote in
it, and is not empty. -/
theorem StringForm.of_eq_literal {text : List Char} (h : StringForm.of text = .literal) :
    text ≠ [] ∧ ∀ c ∈ text, isControl c = false ∧ c ≠ '\'' := by
  have hne : text ≠ [] := by
    rintro rfl
    exact absurd h (by decide)
  simp only [StringForm.of] at h
  split at h
  · cases h
  · split at h
    · next hform =>
      refine ⟨hne, fun c hc => ?_⟩
      simp only [Bool.and_eq_true, Bool.not_eq_true', List.any_eq_false, needsEscape,
        Bool.or_eq_true, decide_eq_true_eq] at hform
      obtain ⟨hplain, hquote⟩ := hform
      have hplain := hplain c hc
      have hquote := hquote c hc
      simp_all
    · split at h
      · cases h
      · split at h
        · cases h
        · split at h <;> cases h

/-- A text that is written between three single quotes has no character in it that needs an escape
and no long run of single quotes. -/
theorem StringForm.of_eq_longLiteral {text : List Char} (h : StringForm.of text = .longLiteral) :
    (∀ c ∈ text, needsEscape c = false) ∧ runsLong '\'' 0 text = false := by
  simp only [StringForm.of] at h
  split at h
  · cases h
  · split at h
    · cases h
    · split at h
      · cases h
      · split at h
        · next hform =>
          simp only [Bool.and_eq_true, Bool.not_eq_true', List.any_eq_false] at hform
          exact ⟨fun c hc => by simpa using hform.1 c hc, hform.2⟩
        · split at h <;> cases h

/-- The line end after the opening quotes is skipped, and nothing else. -/
theorem skipNewline_start {text inner : List Char}
    (h : ∃ d tail, inner = d :: tail ∧
      (isControl d = false ∨ text.contains '\n' = true ∧ d = '\n')) :
    skipNewline ((if text.contains '\n' then "\n" else "").toList ++ inner) = inner := by
  cases hnewline : text.contains '\n' with
  | true => rfl
  | false =>
    obtain ⟨d, tail, rfl, hd | ⟨hin, -⟩⟩ := h
    · apply skipNewline_of_head?
      · rintro ⟨⟩
        exact absurd hd (by decide)
      · rintro ⟨⟩
        exact absurd hd (by decide)
    · rw [hin] at hnewline
      cases hnewline

theorem exists_cons_basicChars_true (text rest : List Char) :
    ∃ d tail, basicChars true 0 text ++ '"' :: rest = d :: tail ∧
      (isControl d = false ∨ text.contains '\n' = true ∧ d = '\n') := by
  cases text with
  | nil => exact ⟨'"', rest, rfl, .inl (by decide)⟩
  | cons c text =>
    by_cases hquote : c = '"'
    · refine ⟨'"', basicChars true 1 text ++ '"' :: rest, ?_, .inl (by decide)⟩
      rw [basicChars, if_pos hquote, if_pos (by decide)]
      rfl
    · by_cases hnewline : c = '\n'
      · refine ⟨'\n', basicChars true 0 text ++ '"' :: rest, ?_, .inr ⟨by simp [hnewline], rfl⟩⟩
        rw [basicChars, if_neg hquote, hnewline, if_pos (by decide)]
        rfl
      · obtain ⟨d, w, hcons, -, hd⟩ := (written_escaped hquote).exists_cons
        refine ⟨d, w ++ (basicChars true 0 text ++ '"' :: rest), ?_, .inl hd⟩
        rw [basicChars, if_neg hquote, if_neg (by simp [hnewline]), hcons, List.append_assoc]
        rfl

theorem exists_cons_literal {text : List Char} (rest : List Char)
    (hplain : ∀ c ∈ text, needsEscape c = false) :
    ∃ d tail, text ++ '\'' :: rest = d :: tail ∧
      (isControl d = false ∨ text.contains '\n' = true ∧ d = '\n') := by
  cases text with
  | nil => exact ⟨'\'', rest, rfl, .inl (by decide)⟩
  | cons c text =>
    refine ⟨c, text ++ '\'' :: rest, rfl, ?_⟩
    have hc := hplain c List.mem_cons_self
    by_cases hnewline : c = '\n'
    · exact .inr ⟨by simp [hnewline], hnewline⟩
    · simp only [needsEscape, Bool.and_eq_false_iff, decide_eq_false_iff_not] at hc
      exact .inl (hc.resolve_right fun h => h hnewline)

theorem toList_writeIn_basic (text : List Char) :
    (writeIn .basic text).toList = '"' :: (basicChars false 0 text ++ ['"']) := by
  simp [writeIn, StringForm.quotes, StringForm.isLong]

theorem toList_writeIn_literal (text : List Char) :
    (writeIn .literal text).toList = '\'' :: (text ++ ['\'']) := by
  simp [writeIn, StringForm.quotes, StringForm.isLong]

theorem toList_writeIn_longBasic (text : List Char) :
    (writeIn .longBasic text).toList =
      '"' :: '"' :: '"' :: ((if text.contains '\n' then "\n" else "").toList ++
        (basicChars true 0 text ++ ['"', '"', '"'])) := by
  simp [writeIn, StringForm.quotes, StringForm.isLong]

theorem toList_writeIn_longLiteral (text : List Char) :
    (writeIn .longLiteral text).toList =
      '\'' :: '\'' :: '\'' :: ((if text.contains '\n' then "\n" else "").toList ++
        (text ++ ['\'', '\'', '\''])) := by
  simp [writeIn, StringForm.quotes, StringForm.isLong]

/-- A text as a string is read as that text, where no quote follows. -/
theorem readString_quoted (text : String) (rest : List Char) (hquote : rest.head? ≠ some '"')
    (happ : rest.head? ≠ some '\'') :
    readString ((quoted text).toList ++ rest) = some (text.toList, rest) := by
  unfold quoted
  generalize text.toList = text
  cases hform : StringForm.of text with
  | basic =>
    have hread := readBasic_basicChars text 0 rest
    rw [toList_writeIn_basic, List.cons_append, List.append_assoc, List.cons_append,
      List.nil_append, readString]
    · exact hread
    · -- the closing quote of an empty string is no second opening quote
      intro more heq
      cases text with
      | nil =>
        obtain ⟨-, hmore⟩ := List.cons.inj heq
        rw [hmore] at hquote
        exact hquote rfl
      | cons c text =>
        obtain ⟨w, hw, hbody⟩ := exists_basicChars_false_cons c 0 text
        obtain ⟨d, tail, rfl, hd, -⟩ := hw.exists_cons
        rw [hbody] at heq
        exact hd (List.cons.inj heq).1
  | literal =>
    obtain ⟨hne, hplain⟩ := StringForm.of_eq_literal hform
    obtain ⟨c, tail, rfl⟩ := List.exists_cons_of_ne_nil hne
    have hread := readLiteral_append rest hplain
    rw [toList_writeIn_literal]
    show readString ('\'' :: (c :: tail ++ ['\''] ++ rest)) = _
    rw [List.append_assoc, readString]
    · exact hread
    · intro more heq
      exact (hplain c List.mem_cons_self).2 (List.cons.inj heq).1
  | longBasic =>
    -- the text itself may start with a line end, which the one put before it protects
    have hskip := skipNewline_start (exists_cons_basicChars_true text ('"' :: '"' :: rest))
    have hread := readLongBasic_basicChars text 0 (by omega) hquote
    rw [toList_writeIn_longBasic]
    simp only [List.cons_append, List.append_assoc, List.nil_append]
    rw [readString, hskip]
    exact hread
  | longLiteral =>
    obtain ⟨hplain, hruns⟩ := StringForm.of_eq_longLiteral hform
    have hskip := skipNewline_start (exists_cons_literal ('\'' :: '\'' :: rest) hplain)
    have hread := readLongLiteral_append 0 (by omega) happ hplain hruns
    rw [toList_writeIn_longLiteral]
    simp only [List.cons_append, List.append_assoc, List.nil_append]
    rw [readString, hskip]
    exact hread

/-! ## Keys -/

theorem takeWhile_append_of_all {p : Char → Bool} {text rest : List Char} (h : text.all p = true)
    (hrest : ∀ c ∈ rest.head?, p c = false) :
    (text ++ rest).takeWhile p = text ∧ (text ++ rest).dropWhile p = rest := by
  have htext : ∀ c ∈ text, p c = true := List.all_eq_true.1 h
  rw [List.takeWhile_append_of_pos htext, List.dropWhile_append_of_pos htext]
  cases rest with
  | nil => simp
  | cons c rest =>
    have hc := hrest c rfl
    simp [hc]

/-- A key that needs no quotes starts with a character of such keys. -/
theorem exists_cons_of_bare {key : String}
    (h : (!key.isEmpty && key.toList.all isBare) = true) :
    ∃ c tail, key.toList = c :: tail ∧ isBare c = true := by
  simp only [Bool.and_eq_true, Bool.not_eq_true'] at h
  obtain ⟨hne, hall⟩ := h
  cases hkey : key.toList with
  | nil =>
    rw [String.toList_eq_nil_iff] at hkey
    rw [hkey] at hne
    exact absurd hne (by decide)
  | cons c tail =>
    rw [hkey] at hall
    exact ⟨c, tail, rfl, List.all_eq_true.1 hall c List.mem_cons_self⟩

/-- A key is read as it was written, where no character follows that could belong to it. -/
theorem readSimpleKey_keyText (key : String) (rest : List Char)
    (hrest : ∀ c ∈ rest.head?, isBare c = false) :
    readSimpleKey ((keyText key).toList ++ rest) = some (key, rest) := by
  unfold keyText
  split
  · next hbare =>
    -- the first character is no quote, because quotes are not bare
    obtain ⟨c, tail, hkey, hc⟩ := exists_cons_of_bare hbare
    obtain ⟨htake, hdrop⟩ := takeWhile_append_of_all (Bool.and_eq_true_iff.1 hbare).2 hrest
    -- the whole key is taken, since what follows cannot belong to it
    have hname : (key.toList.isEmpty) = false := by rw [hkey]; rfl
    have hread : readSimpleKey (key.toList ++ rest) =
        if key.toList.isEmpty then none else some (String.ofList key.toList, rest) := by
      conv_lhs => rw [hkey, List.cons_append]
      rw [readSimpleKey]
      · rw [← List.cons_append, ← hkey]
        simp only [htake, hdrop]
      · intro more heq
        rw [(List.cons.inj heq).1] at hc
        exact absurd hc (by decide)
      · intro more heq
        rw [(List.cons.inj heq).1] at hc
        exact absurd hc (by decide)
    rw [hread, hname, if_neg (by decide), String.ofList_toList]
  · rw [toList_writeIn_basic, List.cons_append, List.append_assoc, readSimpleKey]
    show (readBasic (basicChars false 0 key.toList ++ '"' :: rest)).map _ = _
    rw [readBasic_basicChars]
    simp

end FileTriage.Toml
