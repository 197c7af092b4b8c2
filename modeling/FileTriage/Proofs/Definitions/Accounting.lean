/-
What the report of reconciling says.

Each step writes down the key that it changes and the key that it fills, if there is one: the keys
of the sets and the keys in the report grow together (`Reconciled.Taken.exists_filled`), and no
incoming key is written down twice.  A pass is one step after the other (`Accounts`).  So whatever
the report does not name is as it was, and a report without lines is one of a pass that has changed
nothing.
-/
import FileTriage.Proofs.Definitions.Reconcile

namespace FileTriage.Definitions

/-! ## The keys in a report -/

namespace Report

/-- The keys that hold a set and held none before: those of the sets that came in, and those that
sets have moved to. -/
def filled (r : Report) : List String := r.added ++ r.renamed.map Renaming.after

/-- The incoming keys that have not been passed over, each once for every line about it. -/
def changed (r : Report) : List String :=
  r.added ++ r.upgraded.map VersionChange.name ++ r.renamed.map Renaming.before

variable (r : Report) (key : String)

theorem filled_added :
    ({ r with added := r.added ++ [key] } : Report).filled.Perm (key :: r.filled) := by
  show (r.added ++ [key] ++ _).Perm _
  rw [List.append_assoc]
  exact List.perm_middle

theorem filled_renamed (free : String) :
    ({ r with renamed := r.renamed ++ [⟨key, free⟩] } : Report).filled.Perm (free :: r.filled) := by
  show (r.added ++ (r.renamed ++ [Renaming.mk key free]).map Renaming.after).Perm _
  rw [List.map_append, ← List.append_assoc]
  exact List.perm_append_singleton _ _

theorem changed_added :
    ({ r with added := r.added ++ [key] } : Report).changed.Perm (key :: r.changed) := by
  show (r.added ++ [key] ++ _ ++ _).Perm _
  rw [List.append_assoc, List.append_assoc, changed, List.append_assoc]
  exact List.perm_middle

theorem changed_upgraded (before after : UInt32) :
    ({ r with upgraded := r.upgraded ++ [⟨key, before, after⟩] } : Report).changed.Perm
      (key :: r.changed) := by
  show (r.added ++ (r.upgraded ++ [VersionChange.mk key before after]).map VersionChange.name ++
    _).Perm _
  rw [List.map_append, ← List.append_assoc, List.append_assoc]
  exact List.perm_middle

theorem changed_renamed (free : String) :
    ({ r with renamed := r.renamed ++ [⟨key, free⟩] } : Report).changed.Perm
      (key :: r.changed) := by
  show (r.added ++ _ ++ (r.renamed ++ [Renaming.mk key free]).map Renaming.before).Perm _
  rw [List.map_append, ← List.append_assoc]
  exact List.perm_append_singleton _ _

end Report

/-! ## One step -/

section Step

variable {r r' : Reconciled} {key : String} {incoming : FilesSet} (h : r.Taken key incoming r')
include h

/-- A step that changes something writes its key down. -/
theorem Reconciled.Taken.changed_cases :
    r' = r ∨ r'.report.changed.Perm (key :: r.report.changed) := by
  cases h with
  | added => exact .inr (r.report.changed_added key)
  | kept => exact .inl rfl
  | upgraded => exact .inr (r.report.changed_upgraded key _ _)
  | customMoved => exact .inr (r.report.changed_renamed key _)
  | incomingMoved => exact .inr (r.report.changed_renamed key _)

/-- The keys that a step fills are those that it writes down as filled. -/
theorem Reconciled.Taken.exists_filled :
    ∃ new, r'.sets.keys.Perm (new ++ r.sets.keys) ∧
      r'.report.filled.Perm (new ++ r.report.filled) := by
  -- where room is made, the incoming key holds a set already, and the free one holds none
  have hmakeRoom : ∀ {existing} (a b), r.sets.get? key = some existing →
      (r.makeRoom key a b).sets.keys.Perm ([freeKey r.sets key] ++ r.sets.keys) := by
    intro existing a b hget
    have hfree := get?_freeKey r.sets key
    have hmoved := NameMap.keys_insert_of_fresh
      (b.withName (freeKey r.sets key) (allBlank_freeKey r.sets key)) hfree
    have hthere := NameMap.get?_insert_of_fresh
      (b.withName (freeKey r.sets key) (allBlank_freeKey r.sets key)) hfree hget
    exact (NameMap.keys_insert_of_get? a hthere).trans hmoved
  cases h with
  | added hget =>
    exact ⟨[key], NameMap.keys_insert_of_fresh incoming hget, r.report.filled_added key⟩
  | kept => exact ⟨[], .refl _, .refl _⟩
  | upgraded hget => exact ⟨[], NameMap.keys_insert_of_get? incoming hget, .refl _⟩
  | customMoved hget =>
    exact ⟨[freeKey r.sets key], hmakeRoom _ _ hget, r.report.filled_renamed key _⟩
  | incomingMoved hget =>
    exact ⟨[freeKey r.sets key], hmakeRoom _ _ hget, r.report.filled_renamed key _⟩

/-- Under a key that the report does not name after a step, the step has changed nothing. -/
theorem Reconciled.Taken.get?_of_unnamed {k : String} (hchanged : k ∉ r'.report.changed)
    (hfilled : k ∉ r'.report.filled) : r'.sets.get? k = r.sets.get? k := by
  rcases h.changed_cases with hsame | hperm
  · rw [hsame]
  · have hkey : key ≠ k := by
      rintro rfl
      exact hchanged (hperm.mem_iff.2 List.mem_cons_self)
    cases hget : r.sets.get? k with
    | some s => exact h.get?_of_ne hkey hget
    | none =>
      -- a key that held nothing and holds something now is one that has been filled
      by_contra hsome
      obtain ⟨s, hs⟩ := Option.ne_none_iff_exists'.1 hsome
      obtain ⟨new, hkeys, hnew⟩ := h.exists_filled
      have hmem : k ∈ new ++ r.sets.keys := hkeys.mem_iff.1 (NameMap.mem_keys_iff.2 ⟨s, hs⟩)
      rcases List.mem_append.1 hmem with hmem | hmem
      · exact hfilled (hnew.mem_iff.2 (List.mem_append_left _ hmem))
      · obtain ⟨t, ht⟩ := NameMap.mem_keys_iff.1 hmem
        rw [hget] at ht
        cases ht

/-- A line about an upgrade was there before the step, or it is about the set that has come in. -/
theorem Reconciled.Taken.mem_upgraded {c : VersionChange} (hc : c ∈ r'.report.upgraded) :
    c ∈ r.report.upgraded ∨
      (c.name = key ∧ c.before < c.after ∧ r'.sets.get? key = some incoming ∧
        incoming.version = c.after ∧
        ∃ existing, r.sets.get? key = some existing ∧ existing.version = c.before) := by
  cases h with
  | added => exact .inl hc
  | kept => exact .inl hc
  | upgraded hget _ hversion =>
    rcases List.mem_append.1 hc with hc | hc
    · exact .inl hc
    · rw [List.mem_singleton.1 hc]
      exact .inr ⟨rfl, hversion, NameMap.get?_insert_self _ _ _, rfl, _, hget, rfl⟩
  | customMoved => exact .inl hc
  | incomingMoved => exact .inl hc

end Step

/-! ## A pass -/

/-- What a report says of a pass, and of the sets of a user that it has started from. -/
structure Accounts (incoming user : Definitions) (r : Reconciled) : Prop where
  /-- The keys are those of the user, and those that have been filled. -/
  keys : r.sets.keys.Perm (user.keys ++ r.report.filled)
  /-- Only incoming keys have been changed, and none of them twice. -/
  subset : r.report.changed ⊆ incoming.keys
  nodup : r.report.changed.Nodup
  /-- What the report does not name is as it was. -/
  unnamed : ∀ k, k ∉ r.report.changed → k ∉ r.report.filled → r.sets.get? k = user.get? k
  /-- An upgrade goes up from the version that the user had to the one that is there. -/
  upgraded : ∀ c ∈ r.report.upgraded, c.before < c.after ∧
    (∃ s, r.sets.get? c.name = some s ∧ s.version = c.after) ∧
    ∀ u, user.get? c.name = some u → u.version = c.before

/-- A step keeps the account, if its key is a new one and the user's set under it, if there is one,
is still there. -/
theorem Accounts.step {incoming user : Definitions} {r r' : Reconciled} {key : String}
    {s : FilesSet} (h : Accounts incoming user r) (hfresh : incoming.get? key = none)
    (hown : ∀ u, user.get? key = some u → r.sets.get? key = some u) (htaken : r.Taken key s r') :
    Accounts (incoming.insert key s) user r' := by
  obtain ⟨new, hkeys, hfilled⟩ := htaken.exists_filled
  have hmore : ∀ k ∈ r.report.filled, k ∈ r'.report.filled := fun k hk =>
    hfilled.mem_iff.2 (List.mem_append_right new hk)
  -- the keys that are written down have all come in before, so this one is not among them
  have hnot : key ∉ r.report.changed := by
    intro hmem
    obtain ⟨t, ht⟩ := NameMap.mem_keys_iff.1 (h.subset hmem)
    rw [hfresh] at ht
    cases ht
  have hchanged : r'.report.changed.Nodup ∧
      (∀ k ∈ r'.report.changed, k = key ∨ k ∈ r.report.changed) ∧
      ∀ k ∈ r.report.changed, k ∈ r'.report.changed := by
    rcases htaken.changed_cases with hsame | hperm
    · rw [hsame]
      exact ⟨h.nodup, fun k hk => .inr hk, fun k hk => hk⟩
    · have hnodup : (key :: r.report.changed).Nodup := List.nodup_cons.2 ⟨hnot, h.nodup⟩
      exact ⟨hperm.nodup_iff.2 hnodup, fun k hk => List.mem_cons.1 (hperm.mem_iff.1 hk),
        fun k hk => hperm.mem_iff.2 (List.mem_cons_of_mem key hk)⟩
  obtain ⟨hnodup, hcases, hstill⟩ := hchanged
  refine ⟨?_, ?_, hnodup, ?_, ?_⟩
  · have hswap : (new ++ (user.keys ++ r.report.filled)).Perm
        (user.keys ++ (new ++ r.report.filled)) := by
      rw [← List.append_assoc, ← List.append_assoc]
      exact List.perm_append_comm.append_right _
    calc List.Perm r'.sets.keys (new ++ r.sets.keys) := hkeys
      List.Perm _ (new ++ (user.keys ++ r.report.filled)) := h.keys.append_left new
      List.Perm _ (user.keys ++ (new ++ r.report.filled)) := hswap
      List.Perm _ (user.keys ++ r'.report.filled) := hfilled.symm.append_left _
  · intro k hk
    rw [NameMap.mem_keys_iff]
    rcases hcases k hk with rfl | hk
    · exact ⟨s, NameMap.get?_insert_self _ _ _⟩
    · obtain ⟨t, ht⟩ := NameMap.mem_keys_iff.1 (h.subset hk)
      exact ⟨t, NameMap.get?_insert_of_fresh s hfresh ht⟩
  · intro k hunchanged hunfilled
    rw [htaken.get?_of_unnamed hunchanged hunfilled]
    exact h.unnamed k (fun hk => hunchanged (hstill k hk)) fun hk => hunfilled (hmore k hk)
  · intro c hc
    rcases htaken.mem_upgraded hc with hold | ⟨hname, hup, hget, hafter, u', hthere, hbefore⟩
    · obtain ⟨hup, ⟨t, ht, hversion⟩, huser⟩ := h.upgraded c hold
      have hne : key ≠ c.name := by
        intro heq
        refine hnot (List.mem_append_left _ (List.mem_append_right _ ?_))
        exact heq ▸ List.mem_map_of_mem hold
      exact ⟨hup, ⟨t, htaken.get?_of_ne hne ht, hversion⟩, huser⟩
    · rw [hname]
      refine ⟨hup, ⟨s, hget, hafter⟩, fun u hu => ?_⟩
      -- the set that has been upgraded is the user's
      have hsame := hown u hu
      rw [hthere] at hsame
      cases hsame
      exact hbefore

theorem accounts_reconcile (incoming user : Definitions) :
    Accounts incoming user (reconcile incoming user) := by
  refine reconcile_induction (motive := fun incoming r => Accounts incoming user r) ?_ ?_ incoming
  · -- nothing has come in yet
    have hkeys : user.keys.Perm (user.keys ++ []) := by rw [List.append_nil]
    exact ⟨hkeys, List.nil_subset _, List.nodup_nil, fun k _ _ => rfl, fun c hc => by cases hc⟩
  · intro incoming key s r' hfresh ih htaken
    -- until its key comes in, a set of the user's is where it was
    have hown : ∀ u, user.get? key = some u →
        (reconcile incoming user).sets.get? key = some u := fun u hu =>
      get?_reconcile_of_not_shipped incoming hu hfresh
    exact ih.step hfresh hown htaken

/-! ## The report of a pass -/

variable {incoming user : Definitions} {r : Reconciled}

/-- A report without lines is one of a pass that has changed nothing. -/
theorem Accounts.sets_eq (h : Accounts incoming user r) (hempty : r.report = {}) :
    r.sets = user := by
  refine NameMap.ext_get? fun k => h.unnamed k ?_ ?_
  · rw [hempty]
    exact List.not_mem_nil
  · rw [hempty]
    exact List.not_mem_nil

/-- A pass that has changed nothing has a report without lines. -/
theorem Accounts.report_eq (h : Accounts incoming user r) (hsame : r.sets = user) :
    r.report = {} := by
  have hlength := h.keys.length_eq
  rw [hsame, List.length_append] at hlength
  have hfilled : r.report.filled = [] := List.eq_nil_of_length_eq_zero (by omega)
  obtain ⟨hadded, hrenamed⟩ := List.append_eq_nil_iff.1 hfilled
  -- an upgrade would have changed the version of a set
  have hupgraded : r.report.upgraded = [] := by
    refine List.eq_nil_iff_forall_not_mem.2 fun c hc => ?_
    obtain ⟨hup, ⟨t, ht, hafter⟩, huser⟩ := h.upgraded c hc
    rw [hsame] at ht
    rw [← huser t ht, hafter] at hup
    exact UInt32.lt_irrefl _ hup
  obtain ⟨sets, added, upgraded, renamed⟩ := r
  simp only at hadded hupgraded
  have hnone : renamed = [] := List.map_eq_nil_iff.1 hrenamed
  rw [hadded, hupgraded, hnone]

/-- The report of a pass accounts for every change, whatever the sets on the two sides are flagged
as.  The keys are those of the user, those of the sets that came in and those that sets have moved
to, each once.  There is at most one line about each incoming key.  An upgrade goes up to the
version that is there.  Keys without a line are as they were, and the report has no lines exactly if
nothing has changed. -/
theorem reconcile_accounts_for_changes (incoming user : Definitions) :
    let r := reconcile incoming user
    (r.sets.keys.Perm (user.keys ++ r.report.added ++ r.report.renamed.map Renaming.after) ∧
      (user.keys ++ r.report.added ++ r.report.renamed.map Renaming.after).Nodup ∧
      r.sets.size = user.size + r.report.added.length + r.report.renamed.length) ∧
    ((r.report.added ++ r.report.upgraded.map VersionChange.name ++
        r.report.renamed.map Renaming.before).Nodup ∧
      r.report.added ++ r.report.upgraded.map VersionChange.name ++
        r.report.renamed.map Renaming.before ⊆ incoming.keys) ∧
    (∀ c ∈ r.report.upgraded, c.before < c.after ∧
      ∃ s, r.sets.get? c.name = some s ∧ s.version = c.after) ∧
    (∀ k, k ∉ r.report.added → k ∉ r.report.upgraded.map VersionChange.name →
      k ∉ r.report.renamed.map Renaming.before → k ∉ r.report.renamed.map Renaming.after →
      r.sets.get? k = user.get? k) ∧
    (r.report.isEmpty = true ↔ r.sets = user) := by
  intro r
  have haccounts : Accounts incoming user r := accounts_reconcile incoming user
  have hkeys : r.sets.keys.Perm
      (user.keys ++ r.report.added ++ r.report.renamed.map Renaming.after) := by
    rw [List.append_assoc]
    exact haccounts.keys
  have hsize := hkeys.length_eq
  simp only [NameMap.keys, List.length_append, List.length_map] at hsize
  refine ⟨⟨hkeys, hkeys.nodup_iff.1 r.sets.nodup_keys, hsize⟩,
    ⟨haccounts.nodup, haccounts.subset⟩, ?_, ?_, ?_⟩
  · intro c hc
    obtain ⟨hup, hthere, -⟩ := haccounts.upgraded c hc
    exact ⟨hup, hthere⟩
  · intro k hadded hupgraded hbefore hafter
    refine haccounts.unnamed k ?_ ?_
    · simp only [Report.changed, List.mem_append, not_or]
      exact ⟨⟨hadded, hupgraded⟩, hbefore⟩
    · simp only [Report.filled, List.mem_append, not_or]
      exact ⟨hadded, hafter⟩
  · rw [Report.isEmpty_iff]
    exact ⟨haccounts.sets_eq, haccounts.report_eq⟩

/-- A release with a custom set among the shipped ones. -/
def mixedRelease : Definitions :=
  ofNames [("A", true, 2), ("B", true, 1), ("B (Custom)", true, 1), ("C", false, 3), ("D", true, 1)]

/-- A user with an older set of the release, a custom set under the name of another one, and a
shipped set under the name of the custom one. -/
def mixedUser : Definitions := ofNames [("A", true, 1), ("B", false, 4), ("C", true, 1)]

theorem mixedRelease_accounts_for_changes :
    let r := reconcile mixedRelease mixedUser
    VersionChange.mk "A" 1 2 ∈ r.report.upgraded ∧
    (∃ s, r.sets.get? "A" = some s ∧ s.version = 2) ∧
    r.report.renamed.map Renaming.after = ["B (Custom)", "B (Custom) (Custom)", "C (Custom)"] ∧
    r.sets.size = mixedUser.size + 1 + 3 ∧
    ("E" ∉ r.report.added ∧ r.sets.get? "E" = mixedUser.get? "E") ∧
    r.sets ≠ mixedUser := by
  obtain ⟨⟨-, -, hsize⟩, -, hupgraded, hunnamed, hempty⟩ :=
    reconcile_accounts_for_changes mixedRelease mixedUser
  have hmem : VersionChange.mk "A" 1 2 ∈ (reconcile mixedRelease mixedUser).report.upgraded := by
    decide
  have hE : "E" ∉ (reconcile mixedRelease mixedUser).report.added := by decide
  refine ⟨hmem, (hupgraded _ hmem).2, by decide, ?_, ⟨hE, ?_⟩, ?_⟩
  · exact hsize
  · exact hunnamed "E" hE (by decide) (by decide) (by decide)
  · intro hsame
    exact absurd (hempty.2 hsame) (by decide)

end FileTriage.Definitions
