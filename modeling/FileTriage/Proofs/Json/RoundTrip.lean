/-
A value that has been written as JSON is read back.

The writer puts every item and every field on a line of its own, so what the reader meets is white
space, perhaps a comma before it, and then the text of a value that ends before the next comma or
the end of the line.  Each step of the reader takes at least one byte, which is what its fuel counts.
-/
import FileTriage.Proofs.Json.Numbers
import FileTriage.Proofs.Json.Strings

namespace FileTriage.Json

open Text.Utf8 (encode encode_append)

/-- Values that the reader keeps, in lists and tables that are nested no more than `depth` times. -/
inductive Plain : Nat → Value → Prop where
  | null (depth : Nat) : Plain depth .null
  | bool (depth : Nat) (b : Bool) : Plain depth (.bool b)
  | int (depth : Nat) {i : Int} (h : IsInteger i) : Plain depth (.int i)
  | text (depth : Nat) (s : String) : Plain depth (.text s)
  | list {depth : Nat} {items : List Value} (h : ∀ v ∈ items, Plain depth v) :
      Plain (depth + 1) (.list items)
  | table {depth : Nat} {fields : List (String × Value)} (h : ∀ f ∈ fields, Plain depth f.2) :
      Plain (depth + 1) (.table fields)

/-! ## White space -/

theorem skipSpace_append {blank : List UInt8} (h : ∀ b ∈ blank, isSpace b = true)
    (bytes : List UInt8) : skipSpace (blank ++ bytes) = skipSpace bytes :=
  List.dropWhile_append_of_pos h

theorem skipSpace_cons {b : UInt8} (h : isSpace b = false) (bytes : List UInt8) :
    skipSpace (b :: bytes) = b :: bytes :=
  List.dropWhile_cons_of_neg (by simp [h])

theorem encode_blanks (n : Nat) : encode ("".pushn ' ' n) = List.replicate n (byte ' ') := by
  induction n with
  | zero => rfl
  | succ n ih =>
    have hpush : "".pushn ' ' (n + 1) = ("".pushn ' ' n).push ' ' := rfl
    have hblank : String.utf8EncodeChar ' ' = [byte ' '] := rfl
    rw [encode] at ih
    rw [hpush, encode, String.toList_push, List.flatMap_append, ih, List.flatMap_singleton, hblank,
      List.replicate_succ']

theorem encode_newLine (level : Nat) :
    encode (newLine level) = byte '\n' :: List.replicate (2 * level) (byte ' ') := by
  have hnewline : encode "\n" = [byte '\n'] := by decide
  rw [newLine, encode_append, hnewline, encode_blanks]
  rfl

theorem isSpace_of_mem_newLine {level : Nat} {b : UInt8} (h : b ∈ encode (newLine level)) :
    isSpace b = true := by
  rw [encode_newLine] at h
  rcases List.mem_cons.1 h with rfl | h
  · decide
  · rw [List.eq_of_mem_replicate h]
    decide

/-- White space before a value is skipped. -/
theorem readValue_append {blank : List UInt8} (h : ∀ b ∈ blank, isSpace b = true) (fuel depth : Nat)
    (bytes : List UInt8) : readValue fuel depth (blank ++ bytes) = readValue fuel depth bytes := by
  rw [readValue.eq_def, readValue.eq_def, skipSpace_append h]

/-! ## Lines -/

/-- Parts on lines of their own as the reader meets them: before each of them but the first, there
is a comma. -/
def lines (level : Nat) (first : Bool) : List String → String
  | [] => ""
  | part :: rest => (if first then "" else ",") ++ newLine level ++ part ++ lines level false rest

/-- The text of a field. -/
def fieldText (level : Nat) (f : String × Value) : String :=
  quoted f.1 ++ ": " ++ indented level f.2

theorem indentedItems_eq (level : Nat) (items : List Value) :
    indentedItems level items = lines level true (items.map (indented level)) := by
  induction items with
  | nil => rfl
  | cons v items ih =>
    cases items with
    | nil => simp [indentedItems, lines]
    | cons w items =>
      rw [indentedItems, ih]
      · simp [lines, String.append_assoc]
      · simp

theorem indentedFields_eq (level : Nat) (fields : List (String × Value)) :
    indentedFields level fields = lines level true (fields.map (fieldText level)) := by
  induction fields with
  | nil => rfl
  | cons f fields ih =>
    obtain ⟨name, v⟩ := f
    cases fields with
    | nil => simp [indentedFields, lines, fieldText, String.append_assoc]
    | cons g fields =>
      rw [indentedFields, ih]
      · simp [lines, fieldText, String.append_assoc]
      · simp

/-- What stands before a part. -/
def lead (level : Nat) (first : Bool) : List UInt8 :=
  (if first then [] else [byte ',']) ++ encode (newLine level)

theorem encode_lines_cons (level : Nat) (first : Bool) (part : String) (rest : List String) :
    encode (lines level first (part :: rest)) =
      lead level first ++ (encode part ++ encode (lines level false rest)) := by
  have hcomma : encode "," = [byte ','] := by decide
  cases first
  · simp [lines, lead, encode_append, hcomma]
  · simp [lines, lead, encode_append]

/-- The parts after a value end it, and so does the line of the closing bracket. -/
theorem ends_lines (level outer : Nat) (parts : List String) (rest : List UInt8) :
    Ends (encode (lines level false parts) ++ (encode (newLine outer) ++ rest)) := by
  intro b hb
  cases parts with
  | nil =>
    rw [encode_newLine] at hb
    exact .inr (Option.some.inj hb).symm
  | cons part parts =>
    rw [encode_lines_cons] at hb
    exact .inl (Option.some.inj hb).symm

/-! ## Lists -/

/-- The closing bracket ends a list. -/
theorem readItems_close {blank : List UInt8} (h : ∀ b ∈ blank, isSpace b = true)
    (fuel depth : Nat) (first : Bool) (rest : List UInt8) :
    readItems (fuel + 1) depth first (blank ++ byte ']' :: rest) = ([], some rest) := by
  rw [readItems.eq_def, skipSpace_append h, skipSpace_cons (by decide)]
  simp only [if_pos]

/-- An item is read behind what stands before it. -/
theorem readItems_cons {level : Nat} {b : UInt8} (hspace : isSpace b = false)
    (hclose : b ≠ byte ']') (fuel depth : Nat) (first : Bool) {bytes rest : List UInt8}
    {v : Value} {items : List Value} {after : Option (List UInt8)}
    (hvalue : readValue fuel depth (b :: bytes) = (v, some rest))
    (hitems : readItems fuel depth false rest = (items, after)) :
    readItems (fuel + 1) depth first (lead level first ++ b :: bytes) = (v :: items, after) := by
  have hcomma : byte ',' ≠ byte ']' := by decide
  have hhead : ¬ (b :: bytes).head? = some (byte ']') := fun heq => hclose (Option.some.inj heq)
  have hblank : skipSpace (encode (newLine level) ++ b :: bytes) = b :: bytes := by
    rw [skipSpace_append fun c => isSpace_of_mem_newLine, skipSpace_cons hspace]
  cases first with
  | true =>
    rw [readItems.eq_def, lead, if_pos rfl, List.nil_append, hblank]
    simp only [if_neg hclose, if_neg hhead, hvalue, hitems, if_pos]
    rfl
  | false =>
    -- the comma comes first, and the white space behind it
    rw [readItems.eq_def, lead, if_neg Bool.false_ne_true, List.append_assoc, List.singleton_append,
      skipSpace_cons (by decide)]
    simp only [if_neg hcomma, hblank]
    simp [hclose, hvalue, hitems]

/-- The items of a list are read if each of them is, and does not look like white space or like the
end of the list. -/
theorem readItems_lines {level depth : Nat} {items : List Value}
    (hstart : ∀ v ∈ items, ∃ b tail, encode (indented level v) = b :: tail ∧
      isSpace b = false ∧ b ≠ byte ']')
    (hread : ∀ v ∈ items, ∀ fuel rest, Ends rest →
      (encode (indented level v) ++ rest).length < fuel →
      readValue fuel depth (encode (indented level v) ++ rest) = (v, some rest))
    (outer : Nat) (first : Bool) (rest : List UInt8) {fuel : Nat}
    (hfuel : (encode (lines level first (items.map (indented level))) ++
      (encode (newLine outer) ++ byte ']' :: rest)).length < fuel) :
    readItems fuel depth first (encode (lines level first (items.map (indented level))) ++
      (encode (newLine outer) ++ byte ']' :: rest)) = (items, some rest) := by
  induction items generalizing first fuel with
  | nil =>
    obtain ⟨k, rfl⟩ : ∃ k, fuel = k + 1 := ⟨fuel - 1, by omega⟩
    exact readItems_close (fun b => isSpace_of_mem_newLine) k depth first rest
  | cons v items ih =>
    obtain ⟨k, rfl⟩ : ∃ k, fuel = k + 1 := ⟨fuel - 1, by omega⟩
    obtain ⟨b, tail, hcons, hspace, hclose⟩ := hstart v List.mem_cons_self
    rw [List.map_cons, encode_lines_cons, List.append_assoc, List.append_assoc] at hfuel ⊢
    -- what stands before the item is not empty, so less fuel is enough for the rest
    have hlead : 1 ≤ (lead level first).length := by
      rw [lead, encode_newLine]
      simp only [List.length_append, List.length_cons]
      omega
    rw [List.length_append] at hfuel
    have hends := ends_lines level outer (items.map (indented level)) (byte ']' :: rest)
    have hvalue := hread v List.mem_cons_self k _ hends (by omega)
    rw [List.length_append] at hfuel
    have hitems := @ih (fun w hw => hstart w (List.mem_cons_of_mem _ hw))
      (fun w hw => hread w (List.mem_cons_of_mem _ hw)) false k (by omega)
    rw [hcons, List.cons_append] at hvalue ⊢
    exact readItems_cons hspace hclose k depth first hvalue hitems

/-! ## Tables -/

/-- The closing brace ends a table. -/
theorem readFields_close {blank : List UInt8} (h : ∀ b ∈ blank, isSpace b = true)
    (fuel depth : Nat) (first : Bool) (rest : List UInt8) :
    readFields (fuel + 1) depth first (blank ++ byte '\x7d' :: rest) = ([], some rest) := by
  rw [readFields.eq_def, skipSpace_append h, skipSpace_cons (by decide)]
  simp only [if_pos]

/-- A field is read behind what stands before it. -/
theorem readFields_cons (level fuel depth : Nat) (first : Bool) (name : String)
    {bytes rest : List UInt8} {v : Value} {fields : List (String × Value)}
    {after : Option (List UInt8)} (hvalue : readValue fuel depth bytes = (v, some rest))
    (hfields : readFields fuel depth false rest = (fields, after)) :
    readFields (fuel + 1) depth first
      (lead level first ++ (encode (quoted name) ++ byte ':' :: bytes)) =
        ((name, v) :: fields, after) := by
  have hclose : byte '"' ≠ byte '\x7d' := by decide
  have hcomma : byte ',' ≠ byte '\x7d' := by decide
  obtain ⟨tail, hquoted, -, hname⟩ := readString_quoted name (byte ':' :: bytes)
  have hcolon : skipSpace (byte ':' :: bytes) = byte ':' :: bytes := skipSpace_cons (by decide) _
  have hblank : skipSpace (encode (newLine level) ++ byte '"' :: tail) = byte '"' :: tail := by
    rw [skipSpace_append fun c => isSpace_of_mem_newLine, skipSpace_cons (by decide)]
  rw [hquoted]
  cases first with
  | true =>
    rw [readFields.eq_def, lead, if_pos rfl, List.nil_append, hblank]
    simp only [if_neg hclose]
    simp [hname, hcolon, hvalue, hfields]
  | false =>
    -- as for an item: the comma, then the white space, then the quote of the name
    rw [readFields.eq_def, lead, if_neg Bool.false_ne_true, List.append_assoc,
      List.singleton_append, skipSpace_cons (by decide)]
    simp only [if_neg hcomma, hblank]
    simp [hname, hcolon, hvalue, hfields]

/-- The fields of a table are read if the value of each of them is. -/
theorem readFields_lines {level depth : Nat} {fields : List (String × Value)}
    (hread : ∀ f ∈ fields, ∀ fuel rest, Ends rest →
      (encode (indented level f.2) ++ rest).length < fuel →
      readValue fuel depth (encode (indented level f.2) ++ rest) = (f.2, some rest))
    (outer : Nat) (first : Bool) (rest : List UInt8) {fuel : Nat}
    (hfuel : (encode (lines level first (fields.map (fieldText level))) ++
      (encode (newLine outer) ++ byte '\x7d' :: rest)).length < fuel) :
    readFields fuel depth first (encode (lines level first (fields.map (fieldText level))) ++
      (encode (newLine outer) ++ byte '\x7d' :: rest)) = (fields, some rest) := by
  have hcolon : encode ": " = [byte ':', byte ' '] := by decide
  induction fields generalizing first fuel with
  | nil =>
    obtain ⟨k, rfl⟩ : ∃ k, fuel = k + 1 := ⟨fuel - 1, by omega⟩
    exact readFields_close (fun b => isSpace_of_mem_newLine) k depth first rest
  | cons f fields ih =>
    obtain ⟨k, rfl⟩ : ∃ k, fuel = k + 1 := ⟨fuel - 1, by omega⟩
    obtain ⟨name, v⟩ := f
    rw [List.map_cons, encode_lines_cons, fieldText, encode_append, encode_append, hcolon] at hfuel ⊢
    simp only [List.append_assoc, List.cons_append, List.nil_append, List.length_append,
      List.length_cons] at hfuel ⊢
    have hends := ends_lines level outer (fields.map (fieldText level)) (byte '\x7d' :: rest)
    have hvalue := hread (name, v) List.mem_cons_self k _ hends (by
      simp only [List.length_append, List.length_cons]
      omega)
    have hfields := @ih (fun g hg => hread g (List.mem_cons_of_mem _ hg)) false k (by
      simp only [List.length_append, List.length_cons]
      omega)
    have hblank : ∀ b ∈ [byte ' '], isSpace b = true := by
      intro b hb
      rw [List.mem_singleton.1 hb]
      decide
    exact readFields_cons level k depth first name
      ((readValue_append hblank k depth _).trans hvalue) hfields

/-! ## Values -/

theorem readWord_append (word : String) (v : Value) (rest : List UInt8) :
    readWord word v (word.toList.map byte ++ rest) = (v, some rest) := by
  have hstart : (word.toList.map byte).isPrefixOf (word.toList.map byte ++ rest) = true :=
    List.isPrefixOf_iff_prefix.2 (List.prefix_append _ _)
  rw [readWord]
  simp only [hstart, if_pos, List.drop_left]

/-- The bytes of a word. -/
theorem encode_indented_null (level : Nat) :
    encode (indented level .null) = "null".toList.map byte := by
  simp only [indented, scalarText]
  decide

theorem encode_indented_bool (level : Nat) (b : Bool) :
    encode (indented level (.bool b)) = (if b then "true" else "false").toList.map byte := by
  simp only [indented, scalarText]
  cases b <;> decide

theorem encode_indented_int (level : Nat) (i : Int) :
    encode (indented level (.int i)) = encode (toString i) := by
  simp only [indented, scalarText]

theorem encode_indented_text (level : Nat) (s : String) :
    encode (indented level (.text s)) = encode (quoted s) := by
  simp only [indented, scalarText]

/-- The bytes of a list: its brackets, and its items on lines of their own if it has any. -/
theorem encode_indented_list (level : Nat) {items : List Value} (h : items ≠ []) :
    encode (indented level (.list items)) = byte '[' ::
      (encode (lines (level + 1) true (items.map (indented (level + 1)))) ++
        (encode (newLine level) ++ [byte ']'])) := by
  have hopen : encode "[" = [byte '['] := by decide
  have hclose : encode "]" = [byte ']'] := by decide
  rw [indented, indentedItems_eq, encode_append, encode_append, encode_append, hopen, hclose]
  · simp
  · exact h

theorem encode_indented_list_nil (level : Nat) :
    encode (indented level (.list [])) = [byte '[', byte ']'] := by
  simp only [indented]
  decide

/-- The bytes of a table: its braces, and its fields on lines of their own if it has any. -/
theorem encode_indented_table (level : Nat) {fields : List (String × Value)} (h : fields ≠ []) :
    encode (indented level (.table fields)) = byte '\x7b' ::
      (encode (lines (level + 1) true (fields.map (fieldText (level + 1)))) ++
        (encode (newLine level) ++ [byte '\x7d'])) := by
  have hopen : encode "\x7b" = [byte '\x7b'] := by decide
  have hclose : encode "\x7d" = [byte '\x7d'] := by decide
  rw [indented, indentedFields_eq, encode_append, encode_append, encode_append, hopen, hclose]
  · simp
  · exact h

theorem encode_indented_table_nil (level : Nat) :
    encode (indented level (.table [])) = [byte '\x7b', byte '\x7d'] := by
  simp only [indented]
  decide

section NumberStart

variable {b : UInt8} (hb : b = byte '-' ∨ isDigit b = true)

include hb

/-- What a number starts with starts nothing else. -/
theorem ne_of_number {c : UInt8} (hminus : c ≠ byte '-') (hdigit : isDigit c = false) : b ≠ c := by
  rintro rfl
  rcases hb with hb | hb
  · exact hminus hb
  · rw [hdigit] at hb
    cases hb

theorem isSpace_of_number : isSpace b = false := by
  have hblank := ne_of_number hb (c := 0x20) (by decide) (by decide)
  have htab := ne_of_number hb (c := 0x09) (by decide) (by decide)
  have hline := ne_of_number hb (c := 0x0A) (by decide) (by decide)
  have hreturn := ne_of_number hb (c := 0x0D) (by decide) (by decide)
  simp [isSpace, hblank, htab, hline, hreturn]

/-- A number is read where a digit or a hyphen stands. -/
theorem readValue_number (fuel depth : Nat) (bytes : List UInt8) :
    readValue (fuel + 1) depth (b :: bytes) = readNumber (b :: bytes) := by
  have hquote := ne_of_number hb (c := byte '"') (by decide) (by decide)
  have hbrace := ne_of_number hb (c := byte '\x7b') (by decide) (by decide)
  have hbracket := ne_of_number hb (c := byte '[') (by decide) (by decide)
  have hnull := ne_of_number hb (c := byte 'n') (by decide) (by decide)
  have htrue := ne_of_number hb (c := byte 't') (by decide) (by decide)
  have hfalse := ne_of_number hb (c := byte 'f') (by decide) (by decide)
  have hnumber : (decide (b = byte '-') || isDigit b) = true := by simpa using hb
  rw [readValue.eq_def, skipSpace_cons (isSpace_of_number hb)]
  simp only [if_neg hquote, if_neg hbrace, if_neg hbracket, if_neg hnull, if_neg htrue,
    if_neg hfalse, hnumber, if_pos]

end NumberStart

/-- The text of a value starts with no white space, and not as the end of a list. -/
theorem Plain.exists_cons {depth : Nat} {v : Value} (h : Plain depth v) (level : Nat) :
    ∃ b tail, encode (indented level v) = b :: tail ∧ isSpace b = false ∧ b ≠ byte ']' := by
  cases h with
  | null =>
    rw [encode_indented_null]
    exact ⟨byte 'n', _, rfl, by decide, by decide⟩
  | bool _ b =>
    rw [encode_indented_bool]
    cases b
    · exact ⟨byte 'f', _, rfl, by decide, by decide⟩
    · exact ⟨byte 't', _, rfl, by decide, by decide⟩
  | @int _ i hi =>
    obtain ⟨b, tail, hcons, hb⟩ := exists_cons_toString i
    rw [encode_indented_int]
    exact ⟨b, tail, hcons, isSpace_of_number hb, ne_of_number hb (by decide) (by decide)⟩
  | text _ s =>
    rw [encode_indented_text]
    exact ⟨byte '"', _, encode_quoted s, by decide, by decide⟩
  | @list _ items _ =>
    by_cases hitems : items = []
    · rw [hitems, encode_indented_list_nil]
      exact ⟨byte '[', _, rfl, by decide, by decide⟩
    · rw [encode_indented_list level hitems]
      exact ⟨byte '[', _, rfl, by decide, by decide⟩
  | @table _ fields _ =>
    by_cases hfields : fields = []
    · rw [hfields, encode_indented_table_nil]
      exact ⟨byte '\x7b', _, rfl, by decide, by decide⟩
    · rw [encode_indented_table level hfields]
      exact ⟨byte '\x7b', _, rfl, by decide, by decide⟩

/-- A list is read if its items are. -/
theorem readValue_list {fuel depth : Nat} {bytes : List UInt8} {items : List Value}
    {rest : List UInt8} (hdepth : depth ≤ maxDepth)
    (h : readItems fuel (depth + 1) true bytes = (items, some rest)) :
    readValue (fuel + 1) depth (byte '[' :: bytes) = (.list items, some rest) := by
  rw [readValue.eq_def, skipSpace_cons (by decide)]
  simp only [h, atDepth, if_pos hdepth]
  rfl

/-- A table is read if its fields are. -/
theorem readValue_table {fuel depth : Nat} {bytes : List UInt8} {fields : List (String × Value)}
    {rest : List UInt8} (hdepth : depth ≤ maxDepth)
    (h : readFields fuel (depth + 1) true bytes = (fields, some rest)) :
    readValue (fuel + 1) depth (byte '\x7b' :: bytes) = (.table fields, some rest) := by
  rw [readValue.eq_def, skipSpace_cons (by decide)]
  simp only [h, atDepth, if_pos hdepth]
  rfl

/-- A value is read as it was written, where it ends. -/
theorem Plain.readValue {nested : Nat} {v : Value} (h : Plain nested v) (level : Nat)
    {fuel depth : Nat} {rest : List UInt8} (hdepth : depth + nested ≤ maxDepth + 1)
    (hends : Ends rest) (hfuel : (encode (indented level v) ++ rest).length < fuel) :
    Json.readValue fuel depth (encode (indented level v) ++ rest) = (v, some rest) := by
  have hnone : ∀ b ∈ ([] : List UInt8), isSpace b = true := by simp
  -- induction on what is nested, for every place that the value may be written at
  obtain ⟨k, rfl⟩ : ∃ k, fuel = k + 1 := ⟨fuel - 1, by omega⟩
  induction h generalizing level k depth rest with
  | null =>
    rw [encode_indented_null]
    exact readWord_append "null" .null rest
  | bool _ b =>
    rw [encode_indented_bool]
    cases b
    · exact readWord_append "false" (.bool false) rest
    · exact readWord_append "true" (.bool true) rest
  | @int _ i hi =>
    obtain ⟨b, tail, hcons, hb⟩ := exists_cons_toString i
    have hread := readNumber_toString hi hends
    rw [encode_indented_int]
    rw [hcons, List.cons_append] at hread ⊢
    rw [readValue_number hb, hread]
  | text _ s =>
    obtain ⟨tail, hcons, -, hread⟩ := readString_quoted s rest
    rw [encode_indented_text, hcons, Json.readValue.eq_def, skipSpace_cons (by decide)]
    simp only [if_pos, hread]
  | @list nested items hitems ih =>
    by_cases hnil : items = []
    · rw [hnil, encode_indented_list_nil] at hfuel ⊢
      obtain ⟨j, rfl⟩ : ∃ j, k = j + 1 := ⟨k - 1, by simp at hfuel; omega⟩
      exact readValue_list (by omega) (readItems_close hnone j (depth + 1) true rest)
    · rw [encode_indented_list level hnil] at hfuel ⊢
      simp only [List.cons_append, List.append_assoc, List.nil_append, List.length_cons] at hfuel ⊢
      refine readValue_list (by omega) (readItems_lines ?_ ?_ level true rest (by omega))
      · intro v hv
        exact (hitems v hv).exists_cons (level + 1)
      · intro v hv fuel rest hends hfuel
        obtain ⟨j, rfl⟩ : ∃ j, fuel = j + 1 := ⟨fuel - 1, by omega⟩
        exact ih v hv (level + 1) (by omega) hends j hfuel
  | @table nested fields hfields ih =>
    by_cases hnil : fields = []
    · rw [hnil, encode_indented_table_nil] at hfuel ⊢
      obtain ⟨j, rfl⟩ : ∃ j, k = j + 1 := ⟨k - 1, by simp at hfuel; omega⟩
      exact readValue_table (by omega) (readFields_close hnone j (depth + 1) true rest)
    · rw [encode_indented_table level hnil] at hfuel ⊢
      simp only [List.cons_append, List.append_assoc, List.nil_append, List.length_cons] at hfuel ⊢
      refine readValue_table (by omega) (readFields_lines ?_ level true rest (by omega))
      intro f hf fuel rest hends hfuel
      obtain ⟨j, rfl⟩ : ∃ j, fuel = j + 1 := ⟨fuel - 1, by omega⟩
      exact ih f hf (level + 1) (by omega) hends j hfuel

/-- A value that has been written is read back, and nothing is left of the text. -/
theorem Plain.read_pretty {v : Value} (h : Plain maxDepth v) :
    read (encode (pretty v)) = ⟨v, true⟩ := by
  have hends : Ends [] := by
    intro b hb
    cases hb
  have hfuel : (encode (indented 0 v) ++ []).length < 3 * (encode (indented 0 v)).length + 3 := by
    rw [List.append_nil]
    omega
  have hread : Json.readValue (3 * (encode (indented 0 v)).length + 3) 1
      (encode (indented 0 v) ++ []) = (v, some []) :=
    h.readValue 0 (by omega) hends hfuel
  rw [List.append_nil] at hread
  rw [read, pretty, hread]
  rfl

end FileTriage.Json
