/-
Merging layers of sets.

Under one name, a merge has the newer of two sets and, of equally new ones, the former.  This choice
is associative (`newer_assoc`), so merging layer after layer comes down to one choice among all of
them.  For layers in the order of their sources, the set that is chosen is the one that prevails:
the newest and, of equally new ones, the one whose source comes first (`prevails_of_mergeAll`).
-/
import FileTriage.Proofs.Definitions.Intermediate

namespace FileTriage.Definitions

variable {sets : Definitions} {n : String}

/-! ## The newer of two sets -/

theorem none_newer (s : Option FilesSet) : newer none s = s := rfl

theorem newer_assoc (a b c : Option FilesSet) : newer (newer a b) c = newer a (newer b c) := by
  cases a with
  | none => rw [none_newer, none_newer]
  | some a =>
    cases b with
    | none => rw [newer_none, none_newer]
    | some b =>
      cases c with
      | none => rw [newer_none, newer_none]
      | some c =>
        -- the first of the three stays unless one of the others is newer, however they are paired
        by_cases hba : b.version ≤ a.version
        · by_cases hcb : c.version ≤ b.version
          · have hca : c.version ≤ a.version := UInt32.le_trans hcb hba
            simp only [newer, if_pos hba, if_pos hcb, if_pos hca]
          · simp only [newer, if_pos hba, if_neg hcb]
        · by_cases hcb : c.version ≤ b.version
          · simp only [newer, if_neg hba, if_pos hcb]
          · have hca : ¬ c.version ≤ a.version := by
              intro hle
              have hab : a.version ≤ b.version := UInt32.le_of_lt (UInt32.not_le.1 hba)
              exact hcb (UInt32.le_trans hle hab)
            simp only [newer, if_neg hba, if_neg hcb, if_neg hca]

/-- What the newer of two sets is: the former unless the latter is above it. -/
theorem newer_eq_some {a b : Option FilesSet} {s : FilesSet} (h : newer a b = some s) :
    (a = some s ∧ ∀ t, b = some t → t.version ≤ s.version) ∨
      (b = some s ∧ ∀ t, a = some t → t.version < s.version) := by
  cases a with
  | none =>
    rw [none_newer] at h
    exact .inr ⟨h, fun t ht => nomatch ht⟩
  | some a =>
    cases b with
    | none =>
      rw [newer_none] at h
      exact .inl ⟨h, fun t ht => nomatch ht⟩
    | some b =>
      rw [newer] at h
      split at h
      · next hle =>
        obtain rfl := Option.some.inj h
        exact .inl ⟨rfl, fun t ht => Option.some.inj ht ▸ hle⟩
      · next hnot =>
        obtain rfl := Option.some.inj h
        exact .inr ⟨rfl, fun t ht => Option.some.inj ht ▸ UInt32.not_le.1 hnot⟩

theorem newer_eq_none {a b : Option FilesSet} (h : newer a b = none) : a = none ∧ b = none := by
  cases a with
  | none => exact ⟨rfl, h⟩
  | some a =>
    cases b with
    | none => cases h
    | some b =>
      rw [newer] at h
      split at h
      · cases h
      · cases h

/-! ## Merging layers -/

theorem mergeHighest_assoc (a b c : Definitions) :
    (a.mergeHighest b).mergeHighest c = a.mergeHighest (b.mergeHighest c) := by
  refine NameMap.ext_get? fun k => ?_
  simp only [get?_mergeHighest]
  exact newer_assoc _ _ _

theorem mergeHighest_empty (sets : Definitions) : sets.mergeHighest .empty = sets := rfl

theorem empty_mergeHighest (sets : Definitions) : mergeHighest .empty sets = sets := by
  refine NameMap.ext_get? fun k => ?_
  rw [get?_mergeHighest]
  exact none_newer _

/-- Layers merged one after the other. -/
def mergeAll (layers : List Definitions) : Definitions := layers.foldl mergeHighest .empty

instance : Std.Associative mergeHighest := ⟨mergeHighest_assoc⟩

/-- Merging layers into sets one by one is merging them with each other first. -/
theorem foldl_mergeHighest (sets : Definitions) (layers : List Definitions) :
    layers.foldl mergeHighest sets = sets.mergeHighest (mergeAll layers) := by
  calc layers.foldl mergeHighest sets
      = layers.foldl mergeHighest (sets.mergeHighest .empty) := by rw [mergeHighest_empty]
    _ = sets.mergeHighest (mergeAll layers) := List.foldl_assoc

theorem mergeAll_cons (layer : Definitions) (layers : List Definitions) :
    mergeAll (layer :: layers) = layer.mergeHighest (mergeAll layers) := by
  rw [mergeAll, List.foldl_cons, foldl_mergeHighest, empty_mergeHighest]

theorem get?_mergeAll_cons (layer : Definitions) (layers : List Definitions) (n : String) :
    (mergeAll (layer :: layers)).get? n = newer (layer.get? n) ((mergeAll layers).get? n) := by
  rw [mergeAll_cons, get?_mergeHighest]

/-! ## The set that prevails -/

section Prevails

variable {σ : Type} {le : σ → σ → Prop} {supplies : σ → FilesSet → Prop} {s t : FilesSet}

/-- Some source supplies the set, and whatever a source supplies is older, or is equally new and
comes from a source that the first one precedes. -/
def Prevails (le : σ → σ → Prop) (supplies : σ → FilesSet → Prop) (s : FilesSet) : Prop :=
  ∃ source, supplies source s ∧ ∀ other t, supplies other t →
    t.version < s.version ∨ (t.version = s.version ∧ le source other)

/-- Where no two sources precede each other and none supplies two sets, one set prevails at most. -/
theorem Prevails.unique (hanti : ∀ a b, le a b → le b a → a = b)
    (hone : ∀ source s t, supplies source s → supplies source t → s = t)
    (hs : Prevails le supplies s) (ht : Prevails le supplies t) : s = t := by
  obtain ⟨a, has, hbest⟩ := hs
  obtain ⟨b, hbt, hbest'⟩ := ht
  -- neither is newer, so the versions are equal and each source precedes the other
  rcases hbest b t hbt with hlt | ⟨heq, hab⟩
  · rcases hbest' a s has with hgt | ⟨heq, -⟩
    · exact absurd hlt (UInt32.lt_asymm hgt)
    · exact absurd (heq ▸ hlt) (UInt32.lt_irrefl _)
  · rcases hbest' a s has with hgt | ⟨-, hba⟩
    · exact absurd (heq ▸ hgt) (UInt32.lt_irrefl _)
    · obtain rfl := hanti a b hab hba
      exact hone a s t has hbt

/-- What the layers of some sources have under a name. -/
def LayerHas (layer : σ → Definitions) (sources : List σ) (n : String) (source : σ)
    (s : FilesSet) : Prop :=
  source ∈ sources ∧ (layer source).get? n = some s

variable {layer : σ → Definitions} {sources : List σ}

/-- A merge has nothing under a name only where no layer has anything. -/
theorem not_layerHas_of_mergeAll (h : (mergeAll (sources.map layer)).get? n = none) (source : σ)
    (s : FilesSet) : ¬ LayerHas layer sources n source s := by
  rintro ⟨hmem, hget⟩
  induction sources with
  | nil => cases hmem
  | cons first rest ih =>
    rw [List.map_cons, get?_mergeAll_cons] at h
    obtain ⟨hfirst, hrest⟩ := newer_eq_none h
    rcases List.mem_cons.1 hmem with rfl | hmem
    · rw [hfirst] at hget
      cases hget
    · exact ih hrest hmem

/-- Layers that are merged in the order of their sources have the set that prevails. -/
theorem prevails_of_mergeAll (hrefl : ∀ a, le a a) (hsorted : sources.Pairwise le)
    (h : (mergeAll (sources.map layer)).get? n = some s) :
    Prevails le (LayerHas layer sources n) s := by
  -- on the sources: the merge has the newer of the first layer's set and the rest's
  induction sources generalizing s with
  | nil => cases h
  | cons first rest ih =>
    obtain ⟨hfirst, hrest⟩ := List.pairwise_cons.1 hsorted
    rw [List.map_cons, get?_mergeAll_cons] at h
    rcases newer_eq_some h with ⟨hs, hmax⟩ | ⟨hs, hmax⟩
    · -- the first layer is not below the set that prevails among the others
      refine ⟨first, ⟨List.mem_cons_self, hs⟩, ?_⟩
      rintro other t ⟨hmem, hget⟩
      rcases List.mem_cons.1 hmem with rfl | hmem
      · obtain rfl := Option.some.inj (hs.symm.trans hget)
        exact .inr ⟨rfl, hrefl _⟩
      · have hle : t.version ≤ s.version := by
          cases hother : (mergeAll (rest.map layer)).get? n with
          | none => exact absurd ⟨hmem, hget⟩ (not_layerHas_of_mergeAll hother other t)
          | some best =>
            obtain ⟨source, -, hbest⟩ := ih hrest hother
            have hbs : best.version ≤ s.version := hmax best hother
            rcases hbest other t ⟨hmem, hget⟩ with hlt | ⟨heq, -⟩
            · exact UInt32.le_trans (UInt32.le_of_lt hlt) hbs
            · exact heq ▸ hbs
        rcases UInt32.lt_or_eq_of_le hle with hlt | heq
        · exact .inl hlt
        · exact .inr ⟨heq, hfirst other hmem⟩
    · -- the set that prevails among the others is above that of the first layer
      obtain ⟨source, ⟨hmem, hget⟩, hbest⟩ := ih hrest hs
      refine ⟨source, ⟨List.mem_cons_of_mem _ hmem, hget⟩, ?_⟩
      rintro other t ⟨hother, hotherGet⟩
      rcases List.mem_cons.1 hother with rfl | hother
      · exact .inl (hmax t hotherGet)
      · exact hbest other t ⟨hother, hotherGet⟩

/-- What a merge of layers in the order of their sources has under a name. -/
theorem get?_mergeAll_iff (hrefl : ∀ a, le a a) (hanti : ∀ a b, le a b → le b a → a = b)
    (hsorted : sources.Pairwise le) :
    (mergeAll (sources.map layer)).get? n = some s ↔ Prevails le (LayerHas layer sources n) s := by
  constructor
  · exact prevails_of_mergeAll hrefl hsorted
  · intro hs
    cases hget : (mergeAll (sources.map layer)).get? n with
    | none =>
      obtain ⟨source, hsource, -⟩ := hs
      exact absurd hsource (not_layerHas_of_mergeAll hget source s)
    | some t =>
      -- the set that the merge has prevails too, so it is the same one
      have ht := prevails_of_mergeAll hrefl hsorted hget
      have hone (source : σ) (s t : FilesSet) (h : LayerHas layer sources n source s)
          (h' : LayerHas layer sources n source t) : s = t :=
        Option.some.inj (h.2.symm.trans h'.2)
      rw [ht.unique hanti hone hs]

end Prevails

end FileTriage.Definitions
