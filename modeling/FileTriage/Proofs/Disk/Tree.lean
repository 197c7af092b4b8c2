/-
What is below a directory.

Names lead down from an entry, each through a directory that can be listed.  A listing has what they
lead to, ordered by these lists of names: names are compared byte by byte and a list comes before
those that go on from it, so an entry comes before what is below it, and all that is below it before
the next entry of its directory.  `listing` computes it directory by directory
(`isListing_listing`), and there is no other (`IsListing.unique`).
-/
import FileTriage.Proofs.Disk.Listing
import Mathlib.Data.List.Sort

namespace FileTriage.Entry

variable {e found : Entry} {readable : Bool} {modified : Instant}
  {entries : List (FileName × Entry)} {c : FileName × Entry} {names : List FileName}

/-! ## Induction -/

/-- The entries of a directory are smaller than it. -/
theorem sizeOf_lt_of_mem (h : c ∈ entries) :
    sizeOf c.2 < sizeOf (directory readable modified entries) := by
  have hlt := List.sizeOf_lt_of_mem h
  obtain ⟨name, e⟩ := c
  rw [Prod.mk.sizeOf_spec] at hlt
  rw [directory.sizeOf_spec]
  show sizeOf e < _
  omega

/-- Whether the entry is a directory that can be listed. -/
def isListable : Entry → Bool
  | .directory readable _ _ => readable
  | _ => false

/-- What holds of every entry that cannot be listed, and of a directory that can if it holds of its
entries, holds of every entry. -/
@[elab_as_elim]
theorem induction {motive : Entry → Prop} (leaf : ∀ e, e.isListable = false → motive e)
    (directory : ∀ modified entries, (∀ c ∈ entries, motive c.2) →
      motive (.directory true modified entries)) : ∀ e, motive e
  | .file content modified => leaf (.file content modified) rfl
  | .link target modified => leaf (.link target modified) rfl
  | .directory false modified entries => leaf (.directory false modified entries) rfl
  | .directory true modified entries =>
    directory modified entries fun c _ => induction leaf directory c.2
termination_by e => sizeOf e
decreasing_by exact sizeOf_lt_of_mem ‹_›

/-! ## Names -/

mutual

/-- Whether no directory has two entries of one name. -/
def distinctNames : Entry → Bool
  | .directory _ _ entries => (entries.map (·.1)).Nodup && allDistinctNames entries
  | _ => true

/-- Whether no directory among entries or below them has two entries of one name. -/
def allDistinctNames : List (FileName × Entry) → Bool
  | [] => true
  | (_, e) :: rest => distinctNames e && allDistinctNames rest

end

theorem allDistinctNames_iff :
    allDistinctNames entries = true ↔ ∀ c ∈ entries, c.2.distinctNames = true := by
  induction entries with
  | nil => simp [allDistinctNames]
  | cons c entries ih =>
    rw [allDistinctNames, Bool.and_eq_true, ih, List.forall_mem_cons]

theorem distinctNames_directory :
    (directory readable modified entries).distinctNames = true ↔
      (entries.map (·.1)).Nodup ∧ ∀ c ∈ entries, c.2.distinctNames = true := by
  rw [distinctNames, Bool.and_eq_true, decide_eq_true_eq, allDistinctNames_iff]

/-- What is below an entry with distinct names has distinct names. -/
theorem distinctNames_of_at? (h : e.distinctNames = true) (hat : e.at? names = some found) :
    found.distinctNames = true := by
  induction names generalizing e with
  | nil =>
    rw [at?, Option.some.injEq] at hat
    exact hat ▸ h
  | cons name names ih =>
    rw [at?_cons] at hat
    obtain ⟨child, hchild, hat⟩ := Option.bind_eq_some_iff.1 hat
    refine ih ?_ hat
    obtain ⟨c, hfind, rfl⟩ := Option.map_eq_some_iff.1 hchild
    have hmem : c ∈ e.entries := List.mem_of_find?_eq_some hfind
    cases e with
    | file content modified => cases hmem
    | link target modified => cases hmem
    | directory readable modified entries => exact (distinctNames_directory.1 h).2 c hmem

/-! ## Listings -/

/-- Names lead from an entry through directories that can be listed. -/
inductive Visible : Entry → List FileName → Entry → Prop
  | here (e : Entry) : Visible e [] e
  | child {modified : Instant} {entries : List (FileName × Entry)} {c : FileName × Entry}
    {names : List FileName} {found : Entry} (hmem : c ∈ entries) (h : Visible c.2 names found) :
    Visible (.directory true modified entries) (c.1 :: names) found

theorem Visible.eq_of_nil (h : e.Visible [] found) : found = e := by
  cases h
  rfl

/-- All that is strictly below an entry, in the order of the names that lead there. -/
structure IsListing (e : Entry) (listed : List (List FileName × Entry)) : Prop where
  mem_iff : ∀ names found, (names, found) ∈ listed ↔ names ≠ [] ∧ e.Visible names found
  ordered : listed.Pairwise fun f g => f.1 < g.1

/-- What is strictly below an entry, directory by directory. -/
def listing : Entry → List (List FileName × Entry)
  | .directory true _ entries => (Disk.inOrder entries).attach.flatMap fun c =>
      ([c.1.1], c.1.2) :: (listing c.1.2).map fun f => (c.1.1 :: f.1, f.2)
  | _ => []
termination_by e => sizeOf e
decreasing_by exact sizeOf_lt_of_mem ((Disk.inOrder_perm _).mem_iff.1 c.2)

theorem listing_of_not_listable (h : e.isListable = false) : e.listing = [] := by
  rw [listing]
  rintro modified entries rfl
  cases h

/-- The listing of a directory has each of its entries, followed by what is below that. -/
theorem listing_directory (modified : Instant) (entries : List (FileName × Entry)) :
    (directory true modified entries).listing = (Disk.inOrder entries).flatMap fun c =>
      ([c.1], c.2) :: c.2.listing.map fun f => (c.1 :: f.1, f.2) := by
  rw [listing]
  conv_rhs => rw [← List.attach_map_subtype_val (Disk.inOrder entries), List.flatMap_map]

theorem mem_listing_iff (e : Entry) (names : List FileName) (found : Entry) :
    (names, found) ∈ e.listing ↔ names ≠ [] ∧ e.Visible names found := by
  induction e using Entry.induction generalizing names with
  | leaf e hleaf =>
    rw [listing_of_not_listable hleaf]
    constructor
    · intro hmem
      cases hmem
    · rintro ⟨hne, hvisible⟩
      cases hvisible with
      | here => exact absurd rfl hne
      | child => cases hleaf
  | directory modified entries ih =>
    rw [listing_directory, List.mem_flatMap]
    constructor
    · rintro ⟨c, hc, hmem⟩
      have hc' : c ∈ entries := (Disk.inOrder_perm entries).mem_iff.1 hc
      rcases List.mem_cons.1 hmem with heq | hmem
      · cases heq
        exact ⟨List.cons_ne_nil _ _, .child hc' (.here c.2)⟩
      · obtain ⟨f, hf, heq⟩ := List.mem_map.1 hmem
        cases heq
        exact ⟨List.cons_ne_nil _ _, .child hc' ((ih c hc' f.1).1 hf).2⟩
    · rintro ⟨hne, hvisible⟩
      cases hvisible with
      | here => exact absurd rfl hne
      | @child _ _ c names _ hc hvisible =>
        refine ⟨c, (Disk.inOrder_perm entries).mem_iff.2 hc, ?_⟩
        cases names with
        | nil =>
          -- the names end at an entry of this directory
          rw [hvisible.eq_of_nil]
          exact List.mem_cons_self
        | cons name names =>
          have hmem := (ih c hc (name :: names)).2 ⟨List.cons_ne_nil _ _, hvisible⟩
          exact List.mem_cons_of_mem _ (List.mem_map.2 ⟨_, hmem, rfl⟩)

/-- What a directory lists for an entry has names that begin with the name of that entry. -/
theorem exists_names_of_mem {f : List FileName × Entry} {rest : List (List FileName × Entry)}
    (h : f ∈ ([c.1], c.2) :: rest.map fun g => (c.1 :: g.1, g.2)) :
    ∃ names, f.1 = c.1 :: names := by
  rcases List.mem_cons.1 h with rfl | h
  · exact ⟨[], rfl⟩
  · obtain ⟨g, -, rfl⟩ := List.mem_map.1 h
    exact ⟨g.1, rfl⟩

theorem listing_pairwise (h : e.distinctNames = true) :
    e.listing.Pairwise fun f g => f.1 < g.1 := by
  induction e using Entry.induction with
  | leaf e hleaf =>
    rw [listing_of_not_listable hleaf]
    exact List.Pairwise.nil
  | directory modified entries ih =>
    obtain ⟨hnodup, hbelow⟩ := distinctNames_directory.1 h
    rw [listing_directory, List.pairwise_flatMap]
    constructor
    · intro c hc
      have hc' : c ∈ entries := (Disk.inOrder_perm entries).mem_iff.1 hc
      refine List.pairwise_cons.2 ⟨fun f hf => ?_, ?_⟩
      · -- an entry comes before what is below it
        obtain ⟨⟨names, found⟩, hmem, rfl⟩ := List.mem_map.1 hf
        obtain ⟨name, more, rfl⟩ :=
          List.exists_cons_of_ne_nil ((mem_listing_iff c.2 names found).1 hmem).1
        exact List.cons_lt_cons_iff.2 (.inr ⟨rfl, List.nil_lt_cons name more⟩)
      · refine (ih c hc' (hbelow c hc')).map _ fun f g hlt => ?_
        exact List.cons_lt_cons_iff.2 (.inr ⟨rfl, hlt⟩)
    · -- and that before the next entry, whose name decides
      refine (Disk.inOrder_pairwise_lt hnodup).imp fun hlt f hf g hg => ?_
      obtain ⟨names, hf⟩ := exists_names_of_mem hf
      obtain ⟨others, hg⟩ := exists_names_of_mem hg
      rw [hf, hg]
      exact List.cons_lt_cons_iff.2 (.inl hlt)

theorem isListing_listing (h : e.distinctNames = true) : e.IsListing e.listing :=
  ⟨mem_listing_iff e, listing_pairwise h⟩

/-- There is one order that a listing can have. -/
theorem IsListing.unique {listed listed' : List (List FileName × Entry)} (h : e.IsListing listed)
    (h' : e.IsListing listed') : listed = listed' := by
  have hirrefl : Std.Irrefl fun f g : List FileName × Entry => f.1 < g.1 :=
    ⟨fun f => List.lt_irrefl f.1⟩
  have hantisymm : Std.Antisymm fun f g : List FileName × Entry => f.1 < g.1 :=
    ⟨fun f g hlt hgt => absurd (List.lt_trans hlt hgt) (List.lt_irrefl f.1)⟩
  refine h.ordered.eq_of_mem_iff h'.ordered fun f => ?_
  rw [h.mem_iff f.1 f.2, h'.mem_iff f.1 f.2]

end FileTriage.Entry
