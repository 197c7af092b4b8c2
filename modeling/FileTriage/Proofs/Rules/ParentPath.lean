/-
Literal conditions on the parent path.

Such a condition looks for its text within the text of the file's parent path, both in normal form
and in lower case.  Lower case leaves separators where they are (`isEnclosed_lower`), so both texts
begin and end with one, and to look for a text is to look for whole components.
-/
import FileTriage.Proofs.Path
import FileTriage.Proofs.Rules.Form

namespace FileTriage

namespace Text

/-! ## Looking for text -/

theorem occursIn_iff {pattern text : List Char} :
    occursIn pattern text = true ↔ pattern <:+: text := by
  induction text with
  | nil => rw [occursIn, List.isEmpty_iff, List.infix_nil]
  | cons c rest ih =>
    rw [occursIn, Bool.or_eq_true, List.isPrefixOf_iff_prefix, ih, List.infix_cons_iff]

/-! ## Lower case -/

theorem lowerChar_separator (before after : List Char) : lowerChar before '/' after = ['/'] := by
  rw [lowerChar, if_neg (by decide), if_neg (by decide)]
  decide

/-- A separator at the end of a text stays there. -/
theorem exists_lowerFrom_append_separator (before text : List Char) :
    ∃ lowered, lowerFrom before (text ++ ['/']) = lowered ++ ['/'] := by
  induction text generalizing before with
  | nil => exact ⟨[], by rw [List.nil_append, lowerFrom, lowerChar_separator, lowerFrom]; rfl⟩
  | cons c text ih =>
    obtain ⟨lowered, hlowered⟩ := ih (c :: before)
    refine ⟨lowerChar before c (text ++ ['/']) ++ lowered, ?_⟩
    rw [List.cons_append, lowerFrom, hlowered, List.append_assoc]

/-- A path that begins and ends with a separator does so in lower case. -/
theorem isEnclosed_lower {path : String} (h : Path.IsEnclosed path.toList) :
    Path.IsEnclosed (lower path).toList := by
  rw [lower, String.toList_ofList]
  rcases h with h | ⟨inner, h⟩
  · left
    rw [h, lowerFrom, lowerChar_separator, lowerFrom, List.append_nil]
  · right
    obtain ⟨lowered, hlowered⟩ := exists_lowerFrom_append_separator ['/'] inner
    exact ⟨lowered, by rw [h, List.cons_append, lowerFrom, lowerChar_separator, hlowered]; rfl⟩

end Text

namespace Path

/-! ## Spellings of a path -/

/-- The components of a path in normal form and lower case. -/
def loweredComponents (path : String) : List (List Char) :=
  components (Text.lower (normalize path)).toList

/-- Another spelling of a path. -/
inductive Respelled (path : String) : String → Prop
  /-- Its normal form. -/
  | normal : Respelled path (normalize path)
  /-- Either separator in the place of the other, anywhere. -/
  | separators {other : String}
      (h : unifySeparators other.toList = unifySeparators path.toList) : Respelled path other
  /-- More separators at its ends. -/
  | ends (m n : Nat) :
      Respelled path (String.ofList (List.replicate m '/' ++ path.toList ++ List.replicate n '/'))

variable {path other : String}

theorem toList_normalize (path : String) :
    (normalize path).toList = normalizeChars path.toList := by
  rw [normalize, String.toList_ofList]

theorem isEnclosed_lower_normalize (path : String) :
    IsEnclosed (Text.lower (normalize path)).toList := by
  refine Text.isEnclosed_lower ?_
  rw [toList_normalize]
  exact isEnclosed_normalizeChars path.toList

/-- All spellings of a path have one normal form. -/
theorem Respelled.normalize_eq (h : Respelled path other) : normalize other = normalize path := by
  cases h with
  | normal => rw [normalize, toList_normalize, normalizeChars_normalizeChars, normalize]
  | separators h =>
    have hchars : normalizeChars other.toList = normalizeChars path.toList :=
      normalizeChars_congr (by rw [h])
    rw [normalize, normalize, hchars]
  | ends m n =>
    have hunified : unifySeparators (List.replicate m '/' ++ path.toList ++ List.replicate n '/') =
        List.replicate m '/' ++ unifySeparators path.toList ++ List.replicate n '/' := by
      simp [unifySeparators]
    have hchars : normalizeChars (List.replicate m '/' ++ path.toList ++ List.replicate n '/') =
        normalizeChars path.toList :=
      normalizeChars_congr (by rw [hunified, dropEnds_replicate_append])
    rw [normalize, normalize, String.toList_ofList, hchars]

/-- Separators are not blank, so it makes no difference which one is written. -/
theorem allBlank_eq_of_unifySeparators (path : String) :
    Text.allBlank path = (unifySeparators path.toList).all Text.isBlank := by
  rw [Text.allBlank, unifySeparators, List.all_map]
  congr 1
  funext c
  rw [Function.comp_apply]
  split
  · next hc =>
    rw [hc]
    decide
  · rfl

/-- A spelling of a path that is not blank is not blank. -/
theorem Respelled.allBlank_eq_false (h : Respelled path other)
    (hpath : Text.allBlank path = false) : Text.allBlank other = false := by
  cases h with
  | normal =>
    have hfirst : ∃ rest, (normalize path).toList = '/' :: rest := by
      rw [toList_normalize, normalizeChars]
      split
      · exact ⟨_, rfl⟩
      · exact ⟨_, rfl⟩
    obtain ⟨rest, hrest⟩ := hfirst
    rw [Text.allBlank, hrest, List.all_cons, Bool.and_eq_false_iff]
    exact .inl (by decide)
  | separators h => rwa [allBlank_eq_of_unifySeparators, h, ← allBlank_eq_of_unifySeparators]
  | ends m n =>
    rw [Text.allBlank] at hpath
    rw [Text.allBlank, String.toList_ofList, List.all_append, List.all_append, hpath,
      Bool.and_false, Bool.false_and]

end Path

/-! ## Conditions -/

namespace ParentPathCondition

variable {pattern : String} {c : ParentPathCondition}

/-- What a condition is built from is what it shows. -/
theorem build_eq_ok_iff {isRegex : Bool} :
    build pattern isRegex = .ok c ↔ c.pattern = pattern ∧ c.isRegex = isRegex := by
  constructor
  · intro h
    simp only [build] at h
    split at h
    · cases h
      exact ⟨rfl, rfl⟩
    · cases h
  · rintro ⟨rfl, rfl⟩
    exact c.build_self

/-- A literal condition looks for the normal form of its pattern in lower case. -/
theorem matcher_of_build (h : build pattern false = .ok c) :
    Text.allBlank pattern = false ∧
      c.matcher = .contains (Text.lower (Path.normalize pattern)) := by
  obtain ⟨rfl, hliteral⟩ := build_eq_ok_iff.1 h
  have hmatcher := c.matcher_eq
  rw [hliteral, parentPathMatcher] at hmatcher
  split at hmatcher
  · cases hmatcher
  · next hblank =>
    exact ⟨Bool.eq_false_iff.2 hblank, (Except.ok.inj hmatcher).symm⟩

/-- A literal condition can be built from every pattern that is not blank. -/
theorem exists_build (h : Text.allBlank pattern = false) :
    ∃ c, build pattern false = .ok c := by
  have hmatcher : parentPathMatcher pattern false =
      .ok (.contains (Text.lower (Path.normalize pattern))) := by
    rw [parentPathMatcher, h]
    rfl
  exact ⟨⟨pattern, false, _, hmatcher⟩, build_eq_ok_iff.2 ⟨rfl, rfl⟩⟩

/-- A literal condition looks for the components of its pattern, one after the other, among those
of the file's parent path. -/
theorem passes_iff (h : build pattern false = .ok c) (f : FileRecord) :
    c.passes f = true ↔
      Path.loweredComponents pattern <:+: Path.loweredComponents f.parentPath := by
  rw [passes, (matcher_of_build h).2, TextMatcher.accepts, Text.occursIn_iff]
  exact (Path.isEnclosed_lower_normalize pattern).infix_iff
    (Path.isEnclosed_lower_normalize f.parentPath)

/-- A literal condition holds exactly if the components of its pattern, in normal form and lower
case, are a run of the components of the file's parent path.  So it makes no difference to write
either path in normal form, with the other separator, or with more separators at its ends. -/
theorem literal_matches_components (hbuild : build pattern false = .ok c) (f : FileRecord) :
    (c.passes f = true ↔
      Path.components (Text.lower (Path.normalize pattern)).toList <:+:
        Path.components (Text.lower (Path.normalize f.parentPath)).toList) ∧
    ∀ pattern' parentPath, Path.Respelled pattern pattern' →
      Path.Respelled f.parentPath parentPath →
      ∃ c', build pattern' false = .ok c' ∧ c'.passes { f with parentPath } = c.passes f := by
  refine ⟨passes_iff hbuild f, ?_⟩
  intro pattern' parentPath hpattern hparent
  have hblank := hpattern.allBlank_eq_false (matcher_of_build hbuild).1
  obtain ⟨c', hbuild'⟩ := exists_build hblank
  refine ⟨c', hbuild', ?_⟩
  rw [Bool.eq_iff_iff, passes_iff hbuild', passes_iff hbuild, Path.loweredComponents,
    Path.loweredComponents, hpattern.normalize_eq, hparent.normalize_eq]
  rfl

/-- A file in a directory. -/
def fileIn (parentPath : String) : FileRecord :=
  { id := 1, name := "y", extension := "", parentPath }

theorem users_alice_matches :
    ∃ c, build "Users\\Alice" false = .ok c ∧
      c.passes (fileIn "/home/users/ALICE/Documents") = true ∧
      c.passes (fileIn "/Users/Alicia/") = false ∧
      ∃ c', build "/Users/Alice/" false = .ok c' ∧
        c'.passes (fileIn "\\home\\users\\ALICE\\Documents") = true := by
  obtain ⟨c, hbuild⟩ : ∃ c, build "Users\\Alice" false = .ok c := exists_build (by decide)
  obtain ⟨hfound, hspelled⟩ :=
    literal_matches_components hbuild (fileIn "/home/users/ALICE/Documents")
  obtain ⟨hmissed, -⟩ := literal_matches_components hbuild (fileIn "/Users/Alicia/")
  have halice : Path.components (Text.lower (Path.normalize "Users\\Alice")).toList =
      ["users".toList, "alice".toList] := by decide
  have hdocuments : Path.components
      (Text.lower (Path.normalize (fileIn "/home/users/ALICE/Documents").parentPath)).toList =
      ["home".toList, "users".toList, "alice".toList, "documents".toList] := by decide
  have halicia : Path.components
      (Text.lower (Path.normalize (fileIn "/Users/Alicia/").parentPath)).toList =
      ["users".toList, "alicia".toList] := by decide
  rw [halice, hdocuments] at hfound
  rw [halice, halicia] at hmissed
  have hpasses : c.passes (fileIn "/home/users/ALICE/Documents") = true :=
    hfound.2 ⟨["home".toList], ["documents".toList], rfl⟩
  have hfails : c.passes (fileIn "/Users/Alicia/") = false := by
    rw [← Bool.not_eq_true, hmissed]
    decide
  have hnormal : Path.Respelled "Users\\Alice" "/Users/Alice/" := by
    have heq : Path.normalize "Users\\Alice" = "/Users/Alice/" := by decide
    exact heq ▸ .normal
  have hseparators : Path.Respelled (fileIn "/home/users/ALICE/Documents").parentPath
      "\\home\\users\\ALICE\\Documents" := .separators (by decide)
  obtain ⟨c', hbuild', hsame⟩ := hspelled _ _ hnormal hseparators
  exact ⟨c, hbuild, hpasses, hfails, c', hbuild', hsame.trans hpasses⟩

end ParentPathCondition

end FileTriage
