/-
The lines of a text are read one by one.

A text spells statements if reading it gives these and goes on behind it, whatever follows.  Texts
that spell statements can be put behind one another, so all that remains to be shown about a line
is what it spells by itself.
-/
import FileTriage.Proofs.Toml.Values

namespace FileTriage.Toml

/-! ## Spelling -/

/-- Reading the text gives the statements and goes on behind it.  No more fuel is used than the
text has characters. -/
def Spells (text : List Char) (statements : List Statement) : Prop :=
  ∀ fuel rest, text.length ≤ fuel → ∃ left, fuel ≤ left + text.length ∧
    readStatements fuel (text ++ rest) = (readStatements left rest).map (statements ++ ·)

theorem spells_nil : Spells [] [] := by
  intro fuel rest _
  refine ⟨fuel, by simp, ?_⟩
  simp

theorem Spells.append {text text' : List Char} {statements statements' : List Statement}
    (h : Spells text statements) (h' : Spells text' statements') :
    Spells (text ++ text') (statements ++ statements') := by
  intro fuel rest hfuel
  rw [List.length_append] at hfuel
  obtain ⟨left, hleft, hread⟩ := h fuel (text' ++ rest) (by omega)
  -- what the first text leaves of the fuel is enough for the second
  obtain ⟨left', hleft', hread'⟩ := h' left rest (by omega)
  refine ⟨left', by rw [List.length_append]; omega, ?_⟩
  rw [List.append_assoc, hread, hread', Option.map_map]
  congr 1
  funext more
  exact (List.append_assoc statements statements' more).symm

/-- A text that spells statements is read as these. -/
theorem Spells.readStatements {text : List Char} {statements : List Statement}
    (h : Spells text statements) :
    readStatements (text.length + 1) text = some statements := by
  obtain ⟨left, hleft, hread⟩ := h (text.length + 1) [] (by omega)
  obtain ⟨more, rfl⟩ : ∃ more, left = more + 1 := ⟨left - 1, by omega⟩
  have hend : Toml.readStatements (more + 1) [] = some [] := by
    rw [Toml.readStatements]
    rfl
  rw [List.append_nil] at hread
  rw [hread, hend]
  simp

/-- A text that is read in one step spells what this step gives. -/
theorem Spells.of_step {text : List Char} {statements : List Statement} (hne : text ≠ [])
    (h : ∀ left rest, Toml.readStatements (left + 1) (text ++ rest) =
      (Toml.readStatements left rest).map (statements ++ ·)) : Spells text statements := by
  intro fuel rest hfuel
  have hlength := List.length_pos_of_ne_nil hne
  obtain ⟨left, rfl⟩ : ∃ left, fuel = left + 1 := ⟨fuel - 1, by omega⟩
  exact ⟨left, by omega, h left rest⟩

/-- A line that is empty spells nothing. -/
theorem spells_newline : Spells ['\n'] [] := by
  apply Spells.of_step (List.cons_ne_nil _ _)
  intro left rest
  show readStatements (left + 1) ('\n' :: rest) = _
  rw [readStatements, skipSpace, List.dropWhile_cons_of_neg (by decide)]
  simp

theorem readLineEnd_newline (rest : List Char) : readLineEnd ('\n' :: rest) = some ((), rest) := by
  rw [readLineEnd, skipSpace, List.dropWhile_cons_of_neg (by decide)]
  simp [skipComment, readNewline]

/-- A line that starts with a bracket spells the header that it is read as. -/
theorem spells_headerLine {line : List Char} {statement : Statement}
    (hread : ∀ rest, readHeader (line ++ '\n' :: rest) = some (statement, '\n' :: rest)) :
    Spells ('[' :: (line ++ ['\n'])) [statement] := by
  apply Spells.of_step (List.cons_ne_nil _ _)
  intro left rest
  have hshape : '[' :: (line ++ ['\n']) ++ rest = '[' :: (line ++ '\n' :: rest) := by simp
  rw [hshape, readStatements, skipSpace, List.dropWhile_cons_of_neg (by decide),
    Option.map_eq_bind]
  -- a bracket starts neither a comment nor a line end
  have hstart : ∀ d more, d ≠ '[' → '[' :: (line ++ '\n' :: rest) ≠ d :: more := by
    intro d more hd heq
    exact hd (List.cons.inj heq).1.symm
  split
  · next heq => cases heq
  · next more heq => exact absurd heq (hstart '#' more (by decide))
  · next more heq => exact absurd heq (hstart '\n' more (by decide))
  · next more heq => exact absurd heq (hstart '\r' _ (by decide))
  · split
    · next more heq =>
      obtain rfl := (List.cons.inj heq).2
      simp only [hread rest, readLineEnd_newline, Option.bind_eq_bind, Option.bind_some]
      rfl
    · next hno => exact absurd rfl (hno _)

/-- The characters that a key starts with. -/
def StartsKey (c : Char) : Prop := isBare c = true ∨ c = '"'

instance (c : Char) : Decidable (StartsKey c) := inferInstanceAs (Decidable (_ ∨ _))

theorem StartsKey.isSpace_eq_false {c : Char} (h : StartsKey c) : isSpace c = false := by
  by_contra hspace
  simp only [isSpace, Bool.not_eq_false, Bool.or_eq_true, decide_eq_true_eq] at hspace
  rcases hspace with rfl | rfl
  · exact absurd h (by decide)
  · exact absurd h (by decide)

/-- A line that starts with a key spells the pair that it is read as. -/
theorem spells_pairLine {c : Char} {line : List Char} {statement : Statement} (hc : StartsKey c)
    (hread : ∀ rest, readPair (c :: (line ++ '\n' :: rest)) = some (statement, '\n' :: rest)) :
    Spells (c :: (line ++ ['\n'])) [statement] := by
  apply Spells.of_step (List.cons_ne_nil _ _)
  intro left rest
  have hshape : c :: (line ++ ['\n']) ++ rest = c :: (line ++ '\n' :: rest) := by simp
  rw [hshape, readStatements, skipSpace,
    List.dropWhile_cons_of_neg (by simp [hc.isSpace_eq_false]), Option.map_eq_bind]
  -- what starts a key starts neither a comment nor a line end nor a header
  have hstart : ∀ d more, ¬ StartsKey d → c :: (line ++ '\n' :: rest) ≠ d :: more := by
    intro d more hd heq
    exact hd ((List.cons.inj heq).1 ▸ hc)
  split
  · next heq => cases heq
  · next more heq => exact absurd heq (hstart '#' more (by decide))
  · next more heq => exact absurd heq (hstart '\n' more (by decide))
  · next more heq => exact absurd heq (hstart '\r' _ (by decide))
  · split
    · next more heq => exact absurd heq (hstart '[' more (by decide))
    · simp only [hread rest, readLineEnd_newline, Option.bind_eq_bind, Option.bind_some]
      rfl

/-! ## Keys -/

theorem exists_cons_keyText (key : String) :
    ∃ c tail, (keyText key).toList = c :: tail ∧ StartsKey c := by
  unfold keyText
  split
  · next hbare =>
    obtain ⟨c, tail, hkey, hc⟩ := exists_cons_of_bare hbare
    exact ⟨c, tail, hkey, .inl hc⟩
  · exact ⟨'"', _, toList_writeIn_basic _, .inr rfl⟩

/-- The keys that come before the last one in a header, each with its dot. -/
def pathText (path : List String) : String := String.join (path.map fun key => keyText key ++ ".")

theorem pathText_append (path : List String) (key : String) :
    pathText (path ++ [key]) = pathText path ++ keyText key ++ "." := by
  simp [pathText, String.join_append, String.append_assoc]

theorem skipSpace_keyText (key : String) (rest : List Char) :
    skipSpace ((keyText key).toList ++ rest) = (keyText key).toList ++ rest := by
  obtain ⟨c, tail, hcons, hc⟩ := exists_cons_keyText key
  rw [hcons, List.cons_append, skipSpace,
    List.dropWhile_cons_of_neg (by simp [hc.isSpace_eq_false])]

theorem skipSpace_dot (rest : List Char) : skipSpace ('.' :: rest) = '.' :: rest := by
  rw [skipSpace, List.dropWhile_cons_of_neg (by decide)]

/-- The parts of a key are read up to what follows the last of them. -/
theorem readKeyParts_pathText (path : List String) (key : String) (fuel : Nat)
    (hfuel : path.length < fuel) (rest : List Char) (hbare : ∀ c ∈ rest.head?, isBare c = false)
    (hdot : ∀ more, skipSpace rest ≠ '.' :: more) :
    readKeyParts fuel ((pathText path).toList ++ ((keyText key).toList ++ rest)) =
      some (path ++ [key], skipSpace rest) := by
  induction path generalizing fuel with
  | nil =>
    obtain ⟨fuel, rfl⟩ : ∃ more, fuel = more + 1 := ⟨fuel - 1, by simp at hfuel; omega⟩
    have hpath : (pathText []).toList = [] := rfl
    have hkey := readSimpleKey_keyText key rest hbare
    rw [← skipSpace_keyText] at hkey
    rw [hpath, List.nil_append]
    unfold readKeyParts
    rw [hkey]
    dsimp only
    split
    · next more heq => exact absurd heq (hdot more)
    · rfl
  | cons part path ih =>
    obtain ⟨fuel, rfl⟩ : ∃ more, fuel = more + 1 := ⟨fuel - 1, by simp at hfuel; omega⟩
    have hpath : (pathText (part :: path)).toList =
        (keyText part).toList ++ '.' :: (pathText path).toList := by
      simp [pathText]
    have hrest := ih fuel (by simp at hfuel; omega)
    have hpart := readSimpleKey_keyText part
      ('.' :: ((pathText path).toList ++ ((keyText key).toList ++ rest))) (by simp; decide)
    rw [← skipSpace_keyText] at hpart
    rw [hpath, List.append_assoc, List.cons_append]
    unfold readKeyParts
    rw [hpart]
    dsimp only
    rw [skipSpace_dot]
    show (readKeyParts fuel ((pathText path).toList ++ ((keyText key).toList ++ rest))).map _ = _
    rw [hrest]
    rfl

/-! ## Lines -/

/-- The line of a header in double brackets. -/
theorem spells_element {path : List String} (hpath : path.length + 1 < depthLimit) (key : String) :
    Spells ("[[" ++ (pathText path ++ keyText key) ++ "]]\n").toList
      [.element (path ++ [key])] := by
  have hshape : ("[[" ++ (pathText path ++ keyText key) ++ "]]\n").toList =
      '[' :: ('[' :: ((pathText path).toList ++ ((keyText key).toList ++ [']', ']'])) ++
        ['\n']) := by
    simp
  rw [hshape]
  apply spells_headerLine
  intro rest
  have hkey := readKeyParts_pathText path key (depthLimit - 1) (by omega)
    (']' :: ']' :: '\n' :: rest) (by simp; decide)
    (by rw [skipSpace, List.dropWhile_cons_of_neg (by decide)]; simp)
  rw [skipSpace, List.dropWhile_cons_of_neg (by decide)] at hkey
  simp [readHeader, readKey, hkey]

theorem skipSpace_inlineText? {v : Value} {text : String} (h : inlineText? v = some text)
    (rest : List Char) : skipSpace (' ' :: (text.toList ++ rest)) = text.toList ++ rest := by
  obtain ⟨c, tail, hcons, hc⟩ := exists_cons_inlineText? h
  rw [hcons, skipSpace, List.dropWhile_cons_of_pos (by decide), List.cons_append,
    List.dropWhile_cons_of_neg (by simp [hc])]

/-- The line of a key and a value. -/
theorem spells_pair (key : String) {v : Value} {text : String} (h : inlineText? v = some text) :
    Spells (keyText key ++ " = " ++ text ++ "\n").toList [.pair [key] v] := by
  obtain ⟨c, tail, hcons, hc⟩ := exists_cons_keyText key
  have hshape : (keyText key ++ " = " ++ text ++ "\n").toList =
      c :: ((tail ++ ' ' :: '=' :: ' ' :: text.toList) ++ ['\n']) := by
    simp [hcons]
  rw [hshape]
  apply spells_pairLine hc
  intro rest
  have hkey : readKey ((keyText key).toList ++ ' ' :: '=' :: ' ' :: (text.toList ++ '\n' :: rest)) =
      some ([key], '=' :: ' ' :: (text.toList ++ '\n' :: rest)) := by
    have hskip : skipSpace (' ' :: '=' :: ' ' :: (text.toList ++ '\n' :: rest)) =
        '=' :: ' ' :: (text.toList ++ '\n' :: rest) := by
      rw [skipSpace, List.dropWhile_cons_of_pos (by decide),
        List.dropWhile_cons_of_neg (by decide)]
    have hparts := readKeyParts_pathText [] key (depthLimit - 1) (by decide)
      (' ' :: '=' :: ' ' :: (text.toList ++ '\n' :: rest)) (by simp; decide)
      (by rw [hskip]; simp)
    rw [hskip] at hparts
    exact hparts
  have hline : c :: (tail ++ ' ' :: '=' :: ' ' :: text.toList ++ '\n' :: rest) =
      (keyText key).toList ++ ' ' :: '=' :: ' ' :: (text.toList ++ '\n' :: rest) := by
    simp [hcons]
  have hvalue := readValue_inlineText? h
    (2 * (' ' :: (text.toList ++ '\n' :: rest)).length) rest
  rw [hline, readPair, hkey]
  show (readValue (2 * (' ' :: (text.toList ++ '\n' :: rest)).length + 2) 0
    (skipSpace (' ' :: (text.toList ++ '\n' :: rest)))).bind _ = _
  rw [skipSpace_inlineText? h, hvalue]
  rfl

end FileTriage.Toml
