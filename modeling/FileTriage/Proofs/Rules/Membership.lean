/-
Membership in a files set, and what edits make of it.

The rules of a set stand under their ids, and ids are tried in byte order.  So the rule that decides
about a file has the least id of all rules of the set that the file satisfies
(`decidingRule?_eq_some_iff`).  What an edit does to membership follows from what it puts under each
id: a rule that is added can only decide in the place of one with a greater id, and a rule that is
taken out leaves a file without one only where it was.
-/
import FileTriage.Proofs.Rules.Edits
import FileTriage.Proofs.Text.ByteOrder

namespace FileTriage.FilesSet

open Text.Utf8 (encode encode_lt_iff)

variable {s t : FilesSet} {f : FileRecord} {now : Instant} {r rule : Rule}

/-! ## The rule that decides -/

/-- A policy of the set keeps the file out: it ignores known files and the file is known, or it
ignores unallocated space and the file lies there. -/
def KeepsOut (s : FilesSet) (f : FileRecord) : Prop :=
  (s.ignoreKnownFiles = true ∧ f.known = .known) ∨
    (s.ignoreUnallocatedSpace = true ∧ (f.fileType = .slack ∨ f.fileType = .unallocated))

/-- The rule by which a file belongs to a set: no policy keeps the file out, and of the rules of the
set that the file satisfies this is the one whose id comes first in byte order. -/
structure Decides (s : FilesSet) (f : FileRecord) (now : Instant) (r : Rule) : Prop where
  admitted : ¬ s.KeepsOut f
  stored : s.rules.get? r.id = some r
  satisfied : r.isSatisfiedAt f now = true
  least : ∀ id other, s.rules.get? id = some other → other.isSatisfiedAt f now = true →
    id = r.id ∨ encode r.id < encode id

/-- The rule by which a file belongs to a set, if it does. -/
def decidingRule? (s : FilesSet) (f : FileRecord) (now : Instant) : Option Rule :=
  if s.excludes f then none else s.rules.values.find? fun rule => rule.isSatisfiedAt f now

theorem excludes_eq_true_iff : s.excludes f = true ↔ s.KeepsOut f := by
  have hspace : f.fileType.isUnallocatedSpace = true ↔
      f.fileType = .slack ∨ f.fileType = .unallocated := by
    cases f.fileType <;> simp [FileType.isUnallocatedSpace]
  rw [excludes, KeepsOut, Bool.or_eq_true, Bool.and_eq_true, Bool.and_eq_true, decide_eq_true_eq,
    hspace]

theorem firstSatisfiedRuleName?_eq_map :
    s.firstSatisfiedRuleName? f now = (s.decidingRule? f now).map (·.name) := by
  rw [firstSatisfiedRuleName?, decidingRule?]
  split
  · rfl
  · rfl

theorem id_eq_of_get? {id : String} (h : s.rules.get? id = some r) : r.id = id :=
  s.keyed (id, r) (NameMap.get?_eq_some_iff.1 h)

/-- The rule that is found first has the least id of those that the file satisfies. -/
theorem decidingRule?_eq_some_iff : s.decidingRule? f now = some r ↔ s.Decides f now r := by
  rw [decidingRule?]
  split
  · next hexcludes =>
    have hout := excludes_eq_true_iff.1 hexcludes
    refine ⟨?_, fun h => absurd hout h.admitted⟩
    intro h
    cases h
  · next hexcludes =>
    have hin : ¬ s.KeepsOut f := fun hout => hexcludes (excludes_eq_true_iff.2 hout)
    rw [NameMap.find?_values_eq_some_iff]
    constructor
    · rintro ⟨id, hstored, hsatisfied, hleast⟩
      obtain rfl := id_eq_of_get? hstored
      exact ⟨hin, hstored, hsatisfied, fun id other hother hmeets =>
        (hleast id other hother hmeets).imp_right encode_lt_iff.2⟩
    · intro h
      exact ⟨r.id, h.stored, h.satisfied, fun id other hother hmeets =>
        (h.least id other hother hmeets).imp_right encode_lt_iff.1⟩

theorem decidingRule?_eq_none_iff :
    s.decidingRule? f now = none ↔
      s.KeepsOut f ∨ ∀ id r, s.rules.get? id = some r → r.isSatisfiedAt f now = false := by
  rw [decidingRule?]
  split
  · next hexcludes => exact ⟨fun _ => .inl (excludes_eq_true_iff.1 hexcludes), fun _ => rfl⟩
  · next hexcludes =>
    rw [or_iff_right fun hout => hexcludes (excludes_eq_true_iff.2 hout), List.find?_eq_none]
    simp only [NameMap.values, List.forall_mem_map, Bool.not_eq_true, NameMap.get?_eq_some_iff]
    exact ⟨fun h id r hmem => h (id, r) hmem, fun h e hmem => h e.1 e.2 hmem⟩

/-- Some rule decides about a file that satisfies one and that no policy keeps out. -/
theorem exists_decides {id : String} (hin : ¬ s.KeepsOut f) (hstored : s.rules.get? id = some r)
    (hsatisfied : r.isSatisfiedAt f now = true) : ∃ first, s.Decides f now first := by
  cases hfound : s.decidingRule? f now with
  | some first => exact ⟨first, decidingRule?_eq_some_iff.1 hfound⟩
  | none =>
    rcases decidingRule?_eq_none_iff.1 hfound with hout | hnone
    · exact absurd hout hin
    · rw [hnone id r hstored] at hsatisfied
      cases hsatisfied

/-! ## Rules added and taken out -/

theorem get?_withRule (s : FilesSet) (rule : Rule) (id : String) :
    (s.withRule rule).rules.get? id = if rule.id = id then some rule else s.rules.get? id :=
  NameMap.get?_insert s.rules rule.id id rule

theorem get?_withoutRule (s : FilesSet) (removed id : String) :
    (s.withoutRule removed).rules.get? id = if removed = id then none else s.rules.get? id :=
  NameMap.get?_erase s.rules removed id

/-- Under a fresh id, a rule that is added decides in the place of a rule with a greater id, or all
is as before. -/
theorem Decides.withRule (h : s.Decides f now r) (hfresh : s.rules.get? rule.id = none) :
    (s.withRule rule).Decides f now r ∨
      (s.withRule rule).Decides f now rule ∧ encode rule.id < encode r.id := by
  have hne : rule.id ≠ r.id := by
    intro heq
    rw [heq, h.stored] at hfresh
    cases hfresh
  have hkept : (s.withRule rule).rules.get? r.id = some r := by
    rw [get?_withRule, if_neg hne, h.stored]
  obtain ⟨first, hfirst⟩ := exists_decides (s := s.withRule rule) h.admitted hkept h.satisfied
  have hstored := hfirst.stored
  rw [get?_withRule] at hstored
  split at hstored
  · -- the new rule comes first, and the rule that decided before is still there
    obtain rfl := Option.some.inj hstored
    exact .inr ⟨hfirst, (hfirst.least r.id r hkept h.satisfied).resolve_left fun heq => hne heq.symm⟩
  · -- a rule of the set comes first, so it did before
    left
    rcases h.least first.id first hstored hfirst.satisfied with heq | hlt
    · rw [heq, h.stored] at hstored
      exact Option.some.inj hstored ▸ hfirst
    · rcases hfirst.least r.id r hkept h.satisfied with heq | hlt'
      · rw [← heq, h.stored] at hstored
        exact Option.some.inj hstored ▸ hfirst
      · exact absurd hlt' (List.lt_asymm hlt)

/-- A file that comes in with a rule comes in by that rule. -/
theorem eq_of_decides_withRule (h : (s.withRule rule).Decides f now r)
    (hnone : s.decidingRule? f now = none) : r = rule := by
  have hstored := h.stored
  rw [get?_withRule] at hstored
  split at hstored
  · exact (Option.some.inj hstored).symm
  · rcases decidingRule?_eq_none_iff.1 hnone with hout | hunsatisfied
    · exact absurd hout h.admitted
    · have hsatisfied := h.satisfied
      rw [hunsatisfied r.id r hstored] at hsatisfied
      cases hsatisfied

/-- A rule that is added under a fresh id decides, and comes before the rule that did, or all is as
before. -/
theorem decidingRule?_withRule (hfresh : s.rules.get? rule.id = none) :
    (s.withRule rule).decidingRule? f now = s.decidingRule? f now ∨
      (s.withRule rule).decidingRule? f now = some rule ∧
        ∀ r, s.Decides f now r → encode rule.id < encode r.id := by
  cases hbefore : s.decidingRule? f now with
  | some r =>
    have hr := decidingRule?_eq_some_iff.1 hbefore
    rcases hr.withRule hfresh with hkept | ⟨hnew, hlt⟩
    · exact .inl (decidingRule?_eq_some_iff.2 hkept)
    · refine .inr ⟨decidingRule?_eq_some_iff.2 hnew, fun r' hr' => ?_⟩
      rw [decidingRule?_eq_some_iff.2 hr'] at hbefore
      exact Option.some.inj hbefore ▸ hlt
  | none =>
    cases hafter : (s.withRule rule).decidingRule? f now with
    | none => exact .inl rfl
    | some r =>
      have hr := decidingRule?_eq_some_iff.1 hafter
      refine .inr ⟨by rw [eq_of_decides_withRule hr hbefore], fun r' hr' => ?_⟩
      rw [decidingRule?_eq_some_iff.2 hr'] at hbefore
      cases hbefore

/-- Where no rule decides, none does when one is taken out. -/
theorem decidingRule?_withoutRule (h : s.decidingRule? f now = none) (id : String) :
    (s.withoutRule id).decidingRule? f now = none := by
  refine decidingRule?_eq_none_iff.2 ((decidingRule?_eq_none_iff.1 h).imp_right ?_)
  intro hunsatisfied id' r hstored
  rw [get?_withoutRule] at hstored
  split at hstored
  · cases hstored
  · exact hunsatisfied id' r hstored

/-! ## Exclusive rules -/

/-- What the rules of a set say, but for whether they are exclusive, is all that counts. -/
theorem firstSatisfiedRuleName?_congr (hexcludes : t.excludes f = s.excludes f)
    (hrules : t.rules.map (·.withExclusive false) = s.rules.map (·.withExclusive false)) :
    t.firstSatisfiedRuleName? f now = s.firstSatisfiedRuleName? f now := by
  have hforget : ∀ s : FilesSet, s.firstSatisfiedRuleName? f now =
      if s.excludes f then none
      else ((s.rules.map (·.withExclusive false)).values.find? fun rule =>
        rule.isSatisfiedAt f now).map (·.name) := by
    intro s
    have hvalues : (s.rules.map (·.withExclusive false)).values =
        s.rules.values.map (·.withExclusive false) := by
      rw [NameMap.values, NameMap.values, NameMap.map, List.map_map, List.map_map]
      rfl
    rw [firstSatisfiedRuleName?, hvalues, List.find?_map, Option.map_map]
    rfl
  rw [hforget, hforget, hexcludes, hrules]

/-- It makes no difference to membership whether a rule is exclusive. -/
theorem firstSatisfiedRuleName?_withExclusive (s : FilesSet) (rule : Rule) (exclusive : Bool) :
    (s.withRule (rule.withExclusive exclusive)).firstSatisfiedRuleName? f now =
      (s.withRule rule).firstSatisfiedRuleName? f now := by
  refine firstSatisfiedRuleName?_congr rfl ?_
  show (s.rules.insert rule.id (rule.withExclusive exclusive)).map _ =
    (s.rules.insert rule.id rule).map _
  rw [NameMap.map_insert, NameMap.map_insert]
  rfl

/-- A rule of the set put in its own place changes nothing. -/
theorem withRule_of_get? (h : s.rules.get? rule.id = some rule) : s.withRule rule = s := by
  have hrules : s.rules.insert rule.id rule = s.rules := by
    refine NameMap.ext_get? fun id => ?_
    rw [NameMap.get?_insert]
    split
    · next heq => rw [← heq, h]
    · rfl
  obtain ⟨name, description, known, space, rules, standard, version, hname, hkeyed⟩ := s
  simp only [withRule, Rules.add, FilesSet.mk.injEq, true_and, and_true]
  exact hrules

/-! ## Edits one after the other -/

/-- The id that an edit of the rules is about. -/
def Edit.ruleId? : Edit → Option String
  | .withRule rule => some rule.id
  | .withoutRule id => some id
  | _ => none

/-- The rule that stands under that id afterwards. -/
def Edit.rule? : Edit → Option Rule
  | .withRule rule => some rule
  | _ => none

/-- The last of a list of edits that is about a rule id. -/
def lastEdit? (edits : List Edit) (id : String) : Option Edit :=
  edits.reverse.find? fun e => e.ruleId? = some id

theorem get?_edited {e : Edit} (h : s.edited e = .ok t) (id : String) :
    t.rules.get? id = if e.ruleId? = some id then e.rule? else s.rules.get? id := by
  cases e with
  | withRule rule =>
    cases h
    rw [get?_withRule]
    simp only [Edit.ruleId?, Edit.rule?, Option.some.injEq]
  | withoutRule removed =>
    cases h
    rw [get?_withoutRule]
    simp only [Edit.ruleId?, Edit.rule?, Option.some.injEq]
  | renamed name =>
    rw [edited, renamed] at h
    split at h
    · cases h
      rfl
    · cases h
  | withVersion version =>
    cases h
    rfl
  | asStandard =>
    cases h
    rfl

/-- The last edit that is about an id tells which rule stands there. -/
theorem get?_foldlM_edited {edits : List Edit} (h : edits.foldlM edited s = .ok t) (id : String) :
    t.rules.get? id =
      match lastEdit? edits id with
      | some e => e.rule?
      | none => s.rules.get? id := by
  induction edits using List.reverseRecOn generalizing t with
  | nil =>
    cases h
    rfl
  | append_singleton edits e ih =>
    rw [List.foldlM_append] at h
    obtain ⟨u, hu, hlast⟩ := Value.bind_eq_ok_iff.1 h
    have he : u.edited e = .ok t := by
      change (u.edited e >>= pure) = .ok t at hlast
      rwa [bind_pure] at hlast
    rw [get?_edited he, lastEdit?, List.reverse_append, List.reverse_singleton,
      List.singleton_append, List.find?_cons]
    split
    · next hid => rw [decide_eq_true hid]
    · next hid =>
      rw [decide_eq_false hid]
      exact ih hu

/-- Edits that only add rules and take them out can always be made. -/
theorem exists_foldlM_edited {edits : List Edit} (h : ∀ e ∈ edits, e.ruleId?.isSome = true) :
    ∃ t, edits.foldlM edited s = .ok t := by
  induction edits generalizing s with
  | nil => exact ⟨s, rfl⟩
  | cons e edits ih =>
    obtain ⟨he, hedits⟩ := List.forall_mem_cons.1 h
    rw [List.foldlM_cons]
    cases e with
    | withRule rule => exact ih hedits
    | withoutRule id => exact ih hedits
    | renamed name => cases he
    | withVersion version => cases he
    | asStandard => cases he

/-- A file that a policy keeps out is no member of the set; any other is by the rule, among those that
it satisfies, whose id comes first in byte order, and is no member if it satisfies none.  A rule
under a new id keeps all members; where it changes what is reported, it is what is reported, and its
id comes before that of the rule that was.  Taking a rule out makes no file a member.  Another name,
another version, the mark of a shipped set and that of an exclusive rule make no difference.  After
rules have been put in and taken out, the last of these edits that is about an id tells which rule
stands under it. -/
theorem membership_under_edits (s : FilesSet) (f : FileRecord) (now : Instant) :
    (s.KeepsOut f → s.firstSatisfiedRuleName? f now = none) ∧
    (¬ s.KeepsOut f →
      (∀ name, s.firstSatisfiedRuleName? f now = some name ↔
        ∃ r, s.Decides f now r ∧ r.name = name) ∧
      (s.firstSatisfiedRuleName? f now = none ↔
        ∀ id r, s.rules.get? id = some r → r.isSatisfiedAt f now = false)) ∧
    (∀ rule, s.rules.get? rule.id = none →
      let after := (s.withRule rule).firstSatisfiedRuleName? f now
      ((s.firstSatisfiedRuleName? f now).isSome = true → after.isSome = true) ∧
      (after ≠ s.firstSatisfiedRuleName? f now →
        after = some rule.name ∧ ∀ r, s.Decides f now r → encode rule.id < encode r.id)) ∧
    (∀ id, s.firstSatisfiedRuleName? f now = none →
      (s.withoutRule id).firstSatisfiedRuleName? f now = none) ∧
    (∀ name t, s.renamed name = .ok t →
      t.firstSatisfiedRuleName? f now = s.firstSatisfiedRuleName? f now) ∧
    (∀ version,
      (s.withVersion version).firstSatisfiedRuleName? f now = s.firstSatisfiedRuleName? f now) ∧
    s.asStandard.firstSatisfiedRuleName? f now = s.firstSatisfiedRuleName? f now ∧
    (∀ rule exclusive,
      (rule.withExclusive exclusive).isSatisfiedAt f now = rule.isSatisfiedAt f now ∧
      (s.withRule (rule.withExclusive exclusive)).firstSatisfiedRuleName? f now =
        (s.withRule rule).firstSatisfiedRuleName? f now ∧
      (s.rules.get? rule.id = some rule →
        (s.withRule (rule.withExclusive exclusive)).firstSatisfiedRuleName? f now =
          s.firstSatisfiedRuleName? f now)) ∧
    ∀ edits : List Edit, (∀ e ∈ edits, e.ruleId?.isSome = true) →
      ∃ t, edits.foldlM edited s = .ok t ∧ ∀ id, t.rules.get? id =
        match lastEdit? edits id with
        | some e => e.rule?
        | none => s.rules.get? id := by
  refine ⟨?_, ?_, ?_, ?_, ?_, fun _ => rfl, rfl, ?_, ?_⟩
  · intro hout
    rw [firstSatisfiedRuleName?_eq_map, decidingRule?_eq_none_iff.2 (.inl hout)]
    rfl
  · intro hin
    rw [firstSatisfiedRuleName?_eq_map]
    constructor
    · intro name
      rw [Option.map_eq_some_iff]
      simp only [decidingRule?_eq_some_iff]
    · rw [Option.map_eq_none_iff, decidingRule?_eq_none_iff, or_iff_right hin]
  · intro rule hfresh after
    have hafter : after = ((s.withRule rule).decidingRule? f now).map (·.name) :=
      firstSatisfiedRuleName?_eq_map
    rw [hafter, firstSatisfiedRuleName?_eq_map, Option.isSome_map, Option.isSome_map]
    rcases decidingRule?_withRule hfresh with hsame | ⟨hnew, hlt⟩
    · rw [hsame]
      exact ⟨id, fun hne => absurd rfl hne⟩
    · rw [hnew]
      exact ⟨fun _ => rfl, fun _ => ⟨rfl, hlt⟩⟩
  · intro id
    rw [firstSatisfiedRuleName?_eq_map, firstSatisfiedRuleName?_eq_map, Option.map_eq_none_iff,
      Option.map_eq_none_iff]
    exact fun h => decidingRule?_withoutRule h id
  · intro name t h
    rw [renamed] at h
    split at h
    · cases h
      rfl
    · cases h
  · intro rule exclusive
    refine ⟨rfl, s.firstSatisfiedRuleName?_withExclusive rule exclusive, fun h => ?_⟩
    rw [firstSatisfiedRuleName?_withExclusive, withRule_of_get? h]
  · intro edits hedits
    obtain ⟨t, ht⟩ := exists_foldlM_edited (s := s) hedits
    exact ⟨t, ht, get?_foldlM_edited ht⟩

end FileTriage.FilesSet
