/-
Literal conditions on the extension.

A file has been given its extension in lower case, and the condition takes the lower case again,
which changes nothing (`Text.lower_lower`).  So what is compared is the lower case of what stands
after the last dot of the name with that of each alternative of the pattern.  Lower case never makes
a text empty, so an alternative of which nothing is left does not stand for files without extension.
-/
import FileTriage.Proofs.Path
import FileTriage.Proofs.Rules.Form
import FileTriage.Proofs.Text.Lower
import Mathlib.Data.String.Basic

namespace FileTriage

namespace Path

/-- What separates the components of a path. -/
def IsSeparator (c : Char) : Prop := c = '/' ∨ c = '\\'

/-- A name is what stands after the last separator of a path, or the whole path if it has none. -/
structure EndsIn (path name : List Char) : Prop where
  free : ∀ c ∈ name, ¬ IsSeparator c
  after : path = name ∨ ∃ dir c, IsSeparator c ∧ path = dir ++ c :: name

/-- An extension is what stands after the last dot of a name, which comes neither first nor last. -/
structure HasExtension (name ext : List Char) : Prop where
  free : '.' ∉ ext
  not_last : ext ≠ []
  not_first : ∃ stem, stem ≠ [] ∧ name = stem ++ '.' :: ext

variable {path name ext : List Char}

theorem mem_unifySeparators_iff : '/' ∈ unifySeparators path ↔ ∃ c ∈ path, IsSeparator c := by
  simp only [unifySeparators, List.mem_map, IsSeparator]
  refine exists_congr fun c => and_congr_right fun _ => ?_
  split
  · next hc => simp [hc]
  · next hc => simp [hc]

theorem unifySeparators_of_free (h : ∀ c ∈ name, ¬ IsSeparator c) : unifySeparators name = name :=
  unifySeparators_of_not_mem fun hmem => h _ hmem (.inr rfl)

/-- The last component is the name that a path ends in. -/
theorem lastComponent_eq_iff : lastComponent (unifySeparators path) = name ↔ EndsIn path name := by
  constructor
  · rintro rfl
    by_cases hmem : '/' ∈ unifySeparators path
    · obtain ⟨before, after, heq, hafter⟩ := exists_append_cons_of_mem hmem
      -- the same separator in the path as it is written
      obtain ⟨dir, rest, rfl, -, hrest⟩ := List.map_eq_append_iff.1 heq
      obtain ⟨c, tail, rfl, hc, htail⟩ := List.map_eq_cons_iff.1 hrest
      have hfree : ∀ d ∈ tail, ¬ IsSeparator d := by
        intro d hd hsep
        have hslash : '/' ∈ unifySeparators tail := mem_unifySeparators_iff.2 ⟨d, hd, hsep⟩
        exact hafter (htail ▸ hslash)
      have hname : after = tail := htail.symm.trans (unifySeparators_of_free hfree)
      have hsep : IsSeparator c := by
        split at hc
        · next hback => exact .inr hback
        · exact .inl hc
      rw [heq, lastComponent_append_cons before hafter, hname]
      exact ⟨hfree, .inr ⟨dir, c, hsep, rfl⟩⟩
    · have hfree : ∀ c ∈ path, ¬ IsSeparator c := fun c hc hsep =>
        hmem (mem_unifySeparators_iff.2 ⟨c, hc, hsep⟩)
      rw [lastComponent_of_not_mem hmem, unifySeparators_of_free hfree]
      exact ⟨hfree, .inl rfl⟩
  · rintro ⟨hfree, hafter⟩
    have hslash : '/' ∉ name := fun hmem => hfree _ hmem (.inl rfl)
    rcases hafter with rfl | ⟨dir, c, hsep, rfl⟩
    · rw [unifySeparators_of_free hfree, lastComponent_of_not_mem hslash]
    · have hunified : unifySeparators (dir ++ c :: name) = unifySeparators dir ++ '/' :: name := by
        have hc : (if c = '\\' then '/' else c) = '/' := by
          rcases hsep with rfl | rfl <;> decide
        rw [unifySeparators, List.map_append, List.map_cons, hc]
        exact congrArg (unifySeparators dir ++ '/' :: ·) (unifySeparators_of_free hfree)
      rw [hunified, lastComponent_append_cons _ hslash]

theorem hasExtension_iff : HasExtension name ext ↔ ext ≠ [] ∧ extensionChars name = ext := by
  constructor
  · rintro ⟨hfree, hne, stem, hstem, rfl⟩
    exact ⟨hne, extensionChars_append_cons hstem hfree⟩
  · rintro ⟨hne, rfl⟩
    obtain ⟨stem, hstem, hfree, hname⟩ := exists_of_extensionChars_ne_nil hne
    exact ⟨hfree, hne, stem, hstem, hname⟩

end Path

/-! ## Alternatives -/

/-- An alternative without the white space at its ends, and then without the dots before it. -/
def bareExtension (part : List Char) : List Char :=
  (Text.trimChars Text.isBlank part).dropWhile (· = '.')

/-- The extension of the file at a path is the alternative, but for case. -/
def Path.MatchesAlternative (path part : List Char) : Prop :=
  ∃ name ext, EndsIn path name ∧ HasExtension name ext ∧
    Text.lower (String.ofList ext) = Text.lower (String.ofList (bareExtension part))

variable {pattern : String}

theorem extensionAlternatives_eq (pattern : String) :
    extensionAlternatives pattern =
      ((pattern.toList.splitOn ',').map fun part =>
        Text.lower (String.ofList (bareExtension part))).filter fun part => !part.isEmpty := by
  have hsplit : pattern.splitToList (· = ',') = (pattern.toList.splitOn ',').map String.ofList :=
    String.splitToList_of_valid pattern _
  have hparts : (pattern.splitToList (· = ',')).map (fun part =>
      Text.lower (String.ofList
        ((Text.trimChars Text.isBlank part.toList).dropWhile (· = '.')))) =
      (pattern.toList.splitOn ',').map fun part =>
        Text.lower (String.ofList (bareExtension part)) := by
    rw [hsplit, List.map_map]
    refine List.map_congr_left fun part _ => ?_
    rw [Function.comp_apply, String.toList_ofList, bareExtension]
  rw [extensionAlternatives, hparts]

theorem lower_ofList_eq_empty_iff {text : List Char} :
    Text.lower (String.ofList text) = "" ↔ text = [] := by
  rw [Text.lower_eq_empty_iff, String.ofList_eq_empty_iff]

/-- The alternatives are those of which something is left, in lower case. -/
theorem mem_extensionAlternatives_iff {alternative : String} :
    alternative ∈ extensionAlternatives pattern ↔
      ∃ part ∈ pattern.toList.splitOn ',', bareExtension part ≠ [] ∧
        Text.lower (String.ofList (bareExtension part)) = alternative := by
  rw [extensionAlternatives_eq, List.mem_filter, List.mem_map, Bool.not_eq_true',
    String.isEmpty_eq_false_iff]
  constructor
  · rintro ⟨⟨part, hpart, rfl⟩, hne⟩
    exact ⟨part, hpart, fun hnil => hne (lower_ofList_eq_empty_iff.2 hnil), rfl⟩
  · rintro ⟨part, hpart, hne, rfl⟩
    exact ⟨⟨part, hpart, rfl⟩, fun hempty => hne (lower_ofList_eq_empty_iff.1 hempty)⟩

theorem extensionAlternatives_ne_nil_iff :
    extensionAlternatives pattern ≠ [] ↔
      ∃ part ∈ pattern.toList.splitOn ',', bareExtension part ≠ [] := by
  constructor
  · intro h
    obtain ⟨alternative, hmem⟩ := List.exists_mem_of_ne_nil _ h
    obtain ⟨part, hpart, hne, -⟩ := mem_extensionAlternatives_iff.1 hmem
    exact ⟨part, hpart, hne⟩
  · rintro ⟨part, hpart, hne⟩
    exact List.ne_nil_of_mem (mem_extensionAlternatives_iff.2 ⟨part, hpart, hne, rfl⟩)

/-- Nothing is left of a blank pattern, which is its only alternative. -/
theorem allBlank_eq_false_of_alternative (h : ∃ part ∈ pattern.toList.splitOn ',',
    bareExtension part ≠ []) : Text.allBlank pattern = false := by
  obtain ⟨part, hpart, hne⟩ := h
  refine Bool.eq_false_iff.2 fun hblank => hne ?_
  have hall := List.all_eq_true.1 hblank
  have hcomma : ',' ∉ pattern.toList := fun hmem => absurd (hall ',' hmem) (by decide)
  rw [List.splitOn_eq_singleton hcomma, List.mem_singleton] at hpart
  have htrim : Text.trimChars Text.isBlank part = [] := by
    rw [hpart, Text.trimChars, List.dropWhile_eq_nil_iff.2 hall]
    rfl
  rw [bareExtension, htrim, List.dropWhile_nil]

/-! ## Conditions -/

namespace NameCondition

variable {c : NameCondition}

/-- A literal condition on the extension compares with the alternatives of its pattern. -/
theorem matcher_extension_eq_ok_iff {matcher : TextMatcher} :
    NameScope.extension.matcher pattern false = .ok matcher ↔
      extensionAlternatives pattern ≠ [] ∧ .anyOf (extensionAlternatives pattern) = matcher := by
  rw [NameScope.matcher]
  split
  · next hblank =>
    constructor
    · intro h
      cases h
    · rintro ⟨hne, -⟩
      rw [allBlank_eq_false_of_alternative (extensionAlternatives_ne_nil_iff.1 hne)] at hblank
      cases hblank
  · rw [if_neg (by decide)]
    split
    · next hnil =>
      constructor
      · intro h
        cases h
      · exact fun h => absurd hnil h.1
    · next hne => rw [Except.ok.injEq, and_iff_right hne]

theorem build_eq_ok_iff {scope : NameScope} {isRegex : Bool} :
    build scope pattern isRegex = .ok c ↔
      c.scope = scope ∧ c.pattern = pattern ∧ c.isRegex = isRegex := by
  constructor
  · intro h
    simp only [build] at h
    split at h
    · cases h
      exact ⟨rfl, rfl, rfl⟩
    · cases h
  · rintro ⟨rfl, rfl, rfl⟩
    exact c.build_self

/-- A literal condition on the extension can be built exactly if something is left of one of its
alternatives. -/
theorem exists_build_extension_iff :
    (∃ c, build .extension pattern false = .ok c) ↔
      ∃ part ∈ pattern.toList.splitOn ',', bareExtension part ≠ [] := by
  rw [← extensionAlternatives_ne_nil_iff]
  constructor
  · rintro ⟨c, hbuild⟩
    obtain ⟨hscope, rfl, hliteral⟩ := build_eq_ok_iff.1 hbuild
    have hmatcher := c.matcher_eq
    rw [hscope, hliteral] at hmatcher
    exact (matcher_extension_eq_ok_iff.1 hmatcher).1
  · intro hne
    exact ⟨⟨.extension, pattern, false, _, matcher_extension_eq_ok_iff.2 ⟨hne, rfl⟩⟩,
      build_eq_ok_iff.2 ⟨rfl, rfl, rfl⟩⟩

/-- Its extension is looked for among the alternatives as it has been put into the record. -/
theorem passes_extension_iff (h : build .extension pattern false = .ok c) (f : FileRecord) :
    c.passes f = true ↔ Text.lower f.extension ∈ extensionAlternatives pattern := by
  obtain ⟨hscope, rfl, hliteral⟩ := build_eq_ok_iff.1 h
  have hmatcher := c.matcher_eq
  rw [hscope, hliteral] at hmatcher
  rw [passes, hscope, ← (matcher_extension_eq_ok_iff.1 hmatcher).2]
  exact List.contains_iff_mem

theorem extension_ofPath (id : UInt64) (path : String) :
    (FileRecord.ofPath id path).extension =
      Text.lower (String.ofList
        (Path.extensionChars (Path.lastComponent (Path.unifySeparators path.toList)))) := by
  show Path.extensionOf _ = _
  rw [Path.extensionOf, String.toList_ofList]

/-- A path matches an alternative exactly if something is left of it and the extension is that, but
for case. -/
theorem matchesAlternative_iff {path part : List Char} :
    Path.MatchesAlternative path part ↔
      bareExtension part ≠ [] ∧ Text.lower (String.ofList (bareExtension part)) =
        Text.lower (String.ofList
          (Path.extensionChars (Path.lastComponent (Path.unifySeparators path)))) := by
  constructor
  · rintro ⟨name, ext, hname, hext, hlower⟩
    obtain ⟨hne, hchars⟩ := Path.hasExtension_iff.1 hext
    rw [Path.lastComponent_eq_iff.2 hname, hchars]
    refine ⟨fun hnil => hne ?_, hlower.symm⟩
    rw [hnil] at hlower
    exact lower_ofList_eq_empty_iff.1 (hlower.trans (lower_ofList_eq_empty_iff.2 rfl))
  · rintro ⟨hne, hlower⟩
    have hext : Path.extensionChars (Path.lastComponent (Path.unifySeparators path)) ≠ [] := by
      intro hnil
      rw [hnil, lower_ofList_eq_empty_iff.2 rfl] at hlower
      exact hne (lower_ofList_eq_empty_iff.1 hlower)
    exact ⟨_, _, Path.lastComponent_eq_iff.1 rfl, Path.hasExtension_iff.2 ⟨hext, rfl⟩, hlower.symm⟩

/-- A literal condition on the extension can be built exactly if, of some alternative between the
commas of its pattern, something is left without the white space around it and the dots before it.
It holds of the file at a path exactly if what stands after the last dot of the file's name, which
must be neither its first nor its last character, is what is left of one of the alternatives, both in
lower case.  An alternative of which nothing is left matches no path. -/
theorem extension_literal_matches (pattern : String) :
    ((∃ c, build .extension pattern false = .ok c) ↔
      ∃ part ∈ pattern.toList.splitOn ',', bareExtension part ≠ []) ∧
    (∀ c, build .extension pattern false = .ok c → ∀ id path,
      (c.passes (FileRecord.ofPath id path) = true ↔
        ∃ part ∈ pattern.toList.splitOn ',', Path.MatchesAlternative path.toList part)) ∧
    ∀ part, bareExtension part = [] → ∀ path, ¬ Path.MatchesAlternative path part := by
  refine ⟨exists_build_extension_iff, ?_, ?_⟩
  · intro c hbuild id path
    rw [passes_extension_iff hbuild, extension_ofPath, Text.lower_lower,
      mem_extensionAlternatives_iff]
    refine exists_congr fun part => and_congr_right fun _ => ?_
    exact matchesAlternative_iff.symm
  · intro part hnil path hmatches
    exact (matchesAlternative_iff.1 hmatches).1 hnil

end NameCondition

end FileTriage
