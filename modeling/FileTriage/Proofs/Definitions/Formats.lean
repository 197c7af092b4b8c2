/-
The two formats do not overlap.

There are texts that are well formed in both, but definitions in JSON are a table.  A text that the
JSON reader takes for a table has a brace as its first character that is no white space.  The TOML
reader skips no more than that white space, and a brace starts none of its statements, so it refuses
the text (`Definitions.ofToml_of_table`).  Which of the two formats is tried first can therefore
only matter for the error.
-/
import FileTriage.Definitions.Format
import FileTriage.Proofs.Text.Utf8

namespace FileTriage

/-! ## Texts that start with a brace -/

namespace Toml

theorem readPair_of_not_isBare {c : Char} (hspace : isSpace c = false) (hbare : isBare c = false)
    (hquote : c ≠ '"') (happostrophe : c ≠ '\'') (rest : List Char) :
    readPair (c :: rest) = none := by
  have hskip : skipSpace (c :: rest) = c :: rest := List.dropWhile_cons_of_neg (by simp [hspace])
  have hname : (c :: rest).takeWhile isBare = [] := List.takeWhile_cons_of_neg (by simp [hbare])
  have hkey : readSimpleKey (c :: rest) = none := by
    unfold readSimpleKey
    split
    · next heq => exact absurd (List.cons.inj heq).1 hquote
    · next heq => exact absurd (List.cons.inj heq).1 happostrophe
    · rw [hname]
      rfl
  rw [readPair, readKey, depthLimit]
  simp [readKeyParts, hskip, hkey]

/-- What is a blank of JSON before a brace is none of the statements of TOML, and neither is the
brace. -/
theorem readStatements_brace {blanks : List Char}
    (h : ∀ c ∈ blanks, c = ' ' ∨ c = '\t' ∨ c = '\n' ∨ c = '\r') (rest : List Char) (fuel : Nat) :
    readStatements fuel (blanks ++ '\x7b' :: rest) = none := by
  induction blanks generalizing fuel with
  | nil =>
    cases fuel with
    | zero => rfl
    | succ fuel =>
      have hskip : skipSpace ('\x7b' :: rest) = '\x7b' :: rest :=
        List.dropWhile_cons_of_neg (by decide)
      have hpair := readPair_of_not_isBare (c := '\x7b') (by decide) (by decide) (by decide)
        (by decide) rest
      rw [List.nil_append, readStatements, hskip]
      simp [hpair]
  | cons c blanks ih =>
    have hrest := ih fun d hd => h d (List.mem_cons_of_mem _ hd)
    cases fuel with
    | zero => rfl
    | succ fuel =>
      rcases h c List.mem_cons_self with rfl | rfl | rfl | rfl
      -- a blank or a tab is skipped together with those behind it
      · exact hrest (fuel + 1)
      · exact hrest (fuel + 1)
      · exact hrest fuel
      · have hskip : skipSpace ('\r' :: (blanks ++ '\x7b' :: rest)) =
            '\r' :: (blanks ++ '\x7b' :: rest) := List.dropWhile_cons_of_neg (by decide)
        have hpair := readPair_of_not_isBare (c := '\r') (by decide) (by decide) (by decide)
          (by decide) (blanks ++ '\x7b' :: rest)
        rw [List.cons_append, readStatements, hskip]
        split
        · next heq => cases heq
        · next heq => simp at heq
        · next heq => simp at heq
        · next heq =>
          -- a return before the end of a line ends it, and what is behind it does as well
          have hline := hrest (fuel + 1)
          rw [(List.cons.inj heq).2] at hline
          exact hline
        · simp [hpair]

/-- A text that starts with a brace, or with one behind blanks of JSON, is no TOML. -/
theorem read_brace {text : String} {blanks rest : List Char}
    (htext : text.toList = blanks ++ '\x7b' :: rest)
    (h : ∀ c ∈ blanks, c = ' ' ∨ c = '\t' ∨ c = '\n' ∨ c = '\r') : read text = none := by
  -- no mark of byte order comes first
  have hmark : ∀ more, text.toList ≠ '\uFEFF' :: more := by
    intro more heq
    rw [htext] at heq
    cases blanks with
    | nil => exact absurd (List.cons.inj heq).1 (by decide)
    | cons c blanks =>
      have hc := h c List.mem_cons_self
      rw [(List.cons.inj heq).1] at hc
      exact absurd hc (by decide)
  rw [read]
  split
  · next more heq => exact absurd heq (hmark more)
  · rw [htext, readStatements_brace h]
    rfl

end Toml

/-! ## Tables of JSON -/

namespace Json

theorem numberValue_ne_table (negative : Bool) (whole fraction : List UInt8)
    (exponent : Option Int) (literal : List UInt8) (fields : List (String × Value)) :
    numberValue negative whole fraction exponent literal ≠ .table fields := by
  rw [numberValue]
  split
  · simp
  split
  · simp
  split
  · simp
  · simp

theorem malformed_ne_table (fields : List (String × Value)) : malformed.1 ≠ .table fields := by
  rintro ⟨⟩

theorem readNumber_ne_table (bytes : List UInt8) (fields : List (String × Value)) :
    (readNumber bytes).1 ≠ .table fields := by
  unfold readNumber
  extract_lets negative afterSign whole rest
  split
  · exact malformed_ne_table fields
  split
  next fraction rest pointed _ =>
  split
  · exact malformed_ne_table fields
  extract_lets finish
  -- with an exponent or without one, a number is finished in the same way
  have hfinish (exponent : Option Int) (rest : List UInt8) :
      (finish exponent rest).1 ≠ .table fields :=
    numberValue_ne_table negative whole fraction exponent _ fields
  split
  · split
    · extract_lets sign after digits
      split
      · exact malformed_ne_table fields
      · exact hfinish _ _
    · exact hfinish _ _
  · exact hfinish _ _

theorem atDepth_list_ne_table (depth : Nat) (items : List Value) (rest : Option (List UInt8))
    (fields : List (String × Value)) : (atDepth depth (.list items) rest).1 ≠ .table fields := by
  rw [atDepth]
  split
  · simp
  · simp

theorem readWord_ne_table {word : String} {v : Value} {fields : List (String × Value)}
    (h : v ≠ .table fields) (bytes : List UInt8) : (readWord word v bytes).1 ≠ .table fields := by
  rw [readWord]
  split
  · exact h
  · exact malformed_ne_table fields

/-- A table starts with a brace. -/
theorem skipSpace_of_readValue_table {fuel depth : Nat} {bytes : List UInt8}
    {fields : List (String × Value)} (h : (readValue fuel depth bytes).1 = .table fields) :
    ∃ tail, skipSpace bytes = byte '\x7b' :: tail := by
  rw [readValue.eq_def] at h
  split at h
  · next fuel b rest hskip =>
    by_cases hbrace : b = byte '\x7b'
    · exact ⟨rest, by rw [hskip, hbrace]⟩
    · -- whatever else a value starts with is no table
      exfalso
      rw [if_neg hbrace] at h
      split at h
      · split at h <;> cases h
      split at h
      · exact atDepth_list_ne_table _ _ _ _ h
      split at h
      · exact readWord_ne_table (by simp) _ h
      split at h
      · exact readWord_ne_table (by simp) _ h
      split at h
      · exact readWord_ne_table (by simp) _ h
      split at h
      · exact readNumber_ne_table _ _ h
      · cases h
  · exact absurd h (malformed_ne_table fields)

theorem value_read (bytes : List UInt8) :
    (read bytes).value = (readValue (3 * bytes.length + 3) 1 bytes).1 := rfl

end Json

/-- A text that is a table of JSON is no TOML. -/
theorem Definitions.ofToml_of_table {bytes : List UInt8} {fields : List (String × Value)}
    (h : (Json.read bytes).value = .table fields) : ∃ e, ofToml bytes = .error e := by
  obtain ⟨tail, hskip⟩ : ∃ tail, Json.skipSpace bytes = Json.byte '\x7b' :: tail :=
    Json.skipSpace_of_readValue_table ((Json.value_read bytes).symm.trans h)
  set blanks := bytes.takeWhile Json.isSpace with hblanks
  have hsplit : bytes = (blanks ++ [Json.byte '\x7b']) ++ tail := by
    rw [List.append_assoc, List.singleton_append, ← hskip]
    exact (List.takeWhile_append_dropWhile).symm
  have hspace : ∀ b ∈ blanks, b = 0x20 ∨ b = 0x09 ∨ b = 0x0A ∨ b = 0x0D := by
    intro b hb
    have hb' : Json.isSpace b = true := List.all_eq_true.1 List.all_takeWhile b hb
    simpa [Json.isSpace, or_assoc] using hb'
  cases hdecode : Text.Utf8.decode bytes with
  | error fault => exact ⟨_, by rw [ofToml, hdecode]⟩
  | ok text =>
    -- the blanks and the brace are ASCII, so they are the first characters of the text
    have hascii : ∀ b ∈ blanks ++ [Json.byte '\x7b'], b.toNat < 128 := by
      intro b hb
      rcases List.mem_append.1 hb with hb | hb
      · rcases hspace b hb with rfl | rfl | rfl | rfl <;> decide
      · rw [List.mem_singleton.1 hb]
        decide
    obtain ⟨rest, hrest⟩ := Text.Utf8.exists_of_decode_ascii hascii (hsplit ▸ hdecode)
    set spaces := blanks.map fun b => Char.ofNat b.toNat with hspaces
    have htext : text.toList = spaces ++ '\x7b' :: rest := by
      rw [hrest, List.map_append, List.append_assoc]
      rfl
    have hblank : ∀ c ∈ spaces, c = ' ' ∨ c = '\t' ∨ c = '\n' ∨ c = '\r' := by
      intro c hc
      obtain ⟨b, hb, rfl⟩ := List.mem_map.1 hc
      rcases hspace b hb with rfl | rfl | rfl | rfl <;> decide
    have hnotBlank : ¬ Text.allBlank text = true := by
      rw [Text.allBlank, htext, List.all_eq_true]
      intro hall
      exact absurd (hall '\x7b' (by simp)) (by decide)
    refine ⟨.notToml, ?_⟩
    rw [ofToml, hdecode]
    show ofTomlText text = _
    rw [ofTomlText, if_neg hnotBlank, Toml.read_brace htext hblank]

namespace Definitions

variable {bytes : List UInt8} {sets : Definitions}

/-! ## Trying one format after the other -/

/-- What has been read from JSON was a table. -/
theorem exists_table_of_ofJson (h : ofJson bytes = .ok sets) :
    ∃ fields, (Json.read bytes).value = .table fields := by
  rw [ofJson, ofJsonText] at h
  cases hvalue : (Json.read bytes).value with
  | table fields => exact ⟨fields, rfl⟩
  | _ =>
    -- whatever else the text is has been refused as no table
    rw [hvalue] at h
    simp only [readTable] at h
    split at h
    · cases h
    · cases h
    · next heq => cases heq

/-- A reader for what another one refuses; the error is that of the former. -/
def orElse (first second : List UInt8 → Except DecodeError Definitions) (bytes : List UInt8) :
    Except DecodeError Definitions :=
  match first bytes with
  | .ok sets => .ok sets
  | .error e =>
    match second bytes with
    | .ok sets => .ok sets
    | .error _ => .error e

theorem ofBytes_eq_orElse (bytes : List UInt8) : ofBytes bytes = orElse ofToml ofJson bytes := rfl

section OrElse

variable {first second : List UInt8 → Except DecodeError Definitions}

/-- Where at most one of two readers accepts, either order accepts what one of them does. -/
theorem orElse_eq_ok_iff (h : ∀ m m', ¬ (first bytes = .ok m ∧ second bytes = .ok m')) :
    orElse first second bytes = .ok sets ↔ first bytes = .ok sets ∨ second bytes = .ok sets := by
  rw [orElse]
  cases hfirst : first bytes with
  | ok m =>
    have hsecond : second bytes ≠ .ok sets := fun hm' => h m sets ⟨hfirst, hm'⟩
    simp [hsecond]
  | error e =>
    cases hsecond : second bytes with
    | ok m' => simp
    | error e' => simp

theorem orElse_eq_error_iff {e : DecodeError} :
    orElse first second bytes = .error e ↔
      first bytes = .error e ∧ ∃ e', second bytes = .error e' := by
  rw [orElse]
  cases hfirst : first bytes with
  | ok m => simp
  | error e₁ =>
    cases hsecond : second bytes with
    | ok m' => simp
    | error e₂ => simp

end OrElse

/-- No bytes are definitions in both formats.  So what is read is what one of the formats gives, and
it is the same if JSON is tried first; and reading fails exactly if neither format gives anything,
with the error of TOML. -/
theorem formats_do_not_overlap (bytes : List UInt8) :
    (∀ sets sets', ¬ (ofToml bytes = .ok sets ∧ ofJson bytes = .ok sets')) ∧
    (∀ sets, ofBytes bytes = .ok sets ↔ ofToml bytes = .ok sets ∨ ofJson bytes = .ok sets) ∧
    (∀ sets, orElse ofJson ofToml bytes = .ok sets ↔ ofBytes bytes = .ok sets) ∧
    (∀ e, ofBytes bytes = .error e ↔
      ofToml bytes = .error e ∧ ∃ e', ofJson bytes = .error e') := by
  have hnever : ∀ sets sets', ¬ (ofToml bytes = .ok sets ∧ ofJson bytes = .ok sets') := by
    rintro sets sets' ⟨htoml, hjson⟩
    obtain ⟨fields, hvalue⟩ := exists_table_of_ofJson hjson
    obtain ⟨e, herror⟩ := ofToml_of_table hvalue
    rw [htoml] at herror
    cases herror
  have hok : ∀ sets, ofBytes bytes = .ok sets ↔
      ofToml bytes = .ok sets ∨ ofJson bytes = .ok sets := by
    intro sets
    rw [ofBytes_eq_orElse]
    exact orElse_eq_ok_iff hnever
  refine ⟨hnever, hok, ?_, ?_⟩
  · intro sets
    rw [hok, orElse_eq_ok_iff fun m m' hboth => hnever m' m hboth.symm]
    exact or_comm
  · intro e
    rw [ofBytes_eq_orElse]
    exact orElse_eq_error_iff

/-- A text that is well formed in both formats: a header of TOML, and a list of JSON. -/
example :
    (Toml.read "[1]").isSome = true ∧ (Json.read (Text.Utf8.encode "[1]")).complete = true ∧
      ofBytes (Text.Utf8.encode "[1]") = .error (.tomlData (.missingField "format_version")) := by
  decide +kernel

end Definitions

end FileTriage
