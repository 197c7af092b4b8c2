/-
Maps through their look-ups.

Two maps that answer every look-up alike are equal, every operation is described by what it does
to look-ups, and every map is built from the empty one by inserting keys in ascending order.  The
last is what proofs about loops over maps go by.
-/
import FileTriage.NameMap
import Mathlib.Data.List.Induction
import Mathlib.Data.List.Sort

namespace FileTriage.NameMap

variable {α β : Type}

/-! ## Entries and look-ups -/

/-- What stands under a key of a list of entries in ascending order. -/
theorem map_find?_eq_some_iff {l : List (String × α)} (h : l.Pairwise fun a b => a.1 < b.1)
    {k : String} {v : α} :
    (l.find? fun e => e.1 = k).map (·.2) = some v ↔ (k, v) ∈ l := by
  induction l with
  | nil => simp
  | cons e rest ih =>
    obtain ⟨k', v'⟩ := e
    by_cases hk : k' = k
    · subst hk
      have hfresh : (k', v) ∉ rest := fun hmem =>
        String.lt_irrefl k' (List.rel_of_pairwise_cons h hmem)
      simp [hfresh, eq_comm]
    · have hk' : k ≠ k' := fun e => hk e.symm
      simpa [List.find?_cons, hk, hk'] using ih h.of_cons

theorem get?_eq_some_iff {m : NameMap α} {k : String} {v : α} :
    m.get? k = some v ↔ (k, v) ∈ m.entries :=
  map_find?_eq_some_iff m.ascending

theorem get?_eq_none_iff {m : NameMap α} {k : String} :
    m.get? k = none ↔ ∀ e ∈ m.entries, e.1 ≠ k := by
  rw [get?, Option.map_eq_none_iff, List.find?_eq_none]
  simp only [decide_eq_true_eq, ne_eq]

theorem contains_eq_true_iff {m : NameMap α} {k : String} :
    m.contains k = true ↔ ∃ v, m.get? k = some v := by
  rw [contains, Option.isSome_iff_exists]

theorem contains_eq_false_iff {m : NameMap α} {k : String} :
    m.contains k = false ↔ m.get? k = none := by
  rw [contains, Option.isSome_eq_false_iff, Option.isNone_iff_eq_none]

@[simp] theorem get?_empty (k : String) : (empty : NameMap α).get? k = none := rfl

/-- What stands under a key stays if it passes the test. -/
theorem get?_filter (m : NameMap α) (keep : String → α → Bool) (k : String) :
    (m.filter keep).get? k = (m.get? k).filter (keep k) := by
  refine Option.ext fun v => ?_
  rw [get?_eq_some_iff, filter, List.mem_filter, Option.filter_eq_some_iff, get?_eq_some_iff]

theorem get?_map {β : Type} (m : NameMap α) (f : α → β) (k : String) :
    (m.map f).get? k = (m.get? k).map f := by
  rw [get?, get?, map, List.find?_map, Option.map_map, Option.map_map]
  rfl

theorem get?_erase (m : NameMap α) (key k : String) :
    (m.erase key).get? k = if key = k then none else m.get? k := by
  refine Option.ext fun v => ?_
  rw [get?_eq_some_iff, erase, List.mem_filter, ← get?_eq_some_iff]
  by_cases hk : key = k
  · simp [hk]
  · have hk' : k ≠ key := fun heq => hk heq.symm
    simp [hk, hk']

/-- A key is among the keys of a map exactly if something stands under it. -/
theorem mem_keys_iff {m : NameMap α} {k : String} : k ∈ m.keys ↔ ∃ v, m.get? k = some v := by
  simp only [keys, List.mem_map, get?_eq_some_iff]
  constructor
  · rintro ⟨⟨k', v⟩, hmem, rfl⟩
    exact ⟨v, hmem⟩
  · rintro ⟨v, hmem⟩
    exact ⟨(k, v), hmem, rfl⟩

theorem not_mem_keys_iff {m : NameMap α} {k : String} : k ∉ m.keys ↔ m.contains k = false := by
  rw [mem_keys_iff, ← contains_eq_true_iff, Bool.not_eq_true]

/-- Maps with the same look-ups are equal. -/
theorem ext_get? {m n : NameMap α} (h : ∀ k, m.get? k = n.get? k) : m = n := by
  have hirrefl : Std.Irrefl fun a b : String × α => a.1 < b.1 := ⟨fun a => String.lt_irrefl a.1⟩
  have hantisymm : Std.Antisymm fun a b : String × α => a.1 < b.1 :=
    ⟨fun a b hab hba => absurd (String.lt_trans hab hba) (String.lt_irrefl a.1)⟩
  -- the keys ascend, so entries that are the same come in the same order
  refine ext (m.ascending.eq_of_mem_iff n.ascending ?_)
  rintro ⟨k, v⟩
  rw [← get?_eq_some_iff, ← get?_eq_some_iff, h k]

/-! ## Inserting -/

theorem find?_insertEntry (key k : String) (value : α) (l : List (String × α)) :
    ((insertEntry key value l).find? fun e => e.1 = k).map (·.2) =
      if key = k then some value else (l.find? fun e => e.1 = k).map (·.2) := by
  induction l with
  | nil => by_cases hk : key = k <;> simp [insertEntry, hk]
  | cons e rest ih =>
    obtain ⟨k', v'⟩ := e
    rw [insertEntry]
    split
    · by_cases hk : key = k <;> simp [hk]
    · split
      · next heq =>
        subst heq
        by_cases hk : key = k <;> simp [hk]
      · next hne =>
        by_cases hk' : k' = k
        · subst hk'
          simp [hne]
        · simpa [List.find?_cons, hk'] using ih

theorem get?_insert (m : NameMap α) (key k : String) (value : α) :
    (m.insert key value).get? k = if key = k then some value else m.get? k :=
  find?_insertEntry key k value m.entries

@[simp] theorem get?_insert_self (m : NameMap α) (key : String) (value : α) :
    (m.insert key value).get? key = some value := by
  rw [get?_insert, if_pos rfl]

theorem get?_insert_of_ne (m : NameMap α) {key k : String} (value : α) (h : key ≠ k) :
    (m.insert key value).get? k = m.get? k := by
  rw [get?_insert, if_neg h]

/-- What stands under a key goes on standing there when a fresh key is inserted. -/
theorem get?_insert_of_fresh {m : NameMap α} {key k : String} {v : α} (value : α)
    (hfresh : m.get? key = none) (hget : m.get? k = some v) :
    (m.insert key value).get? k = some v := by
  have hne : key ≠ k := by
    rintro rfl
    rw [hfresh] at hget
    cases hget
  rw [get?_insert_of_ne m value hne, hget]

/-- How many values pass a test after an insertion: the value that was there before counts no
longer, and the new one does. -/
theorem countP_values_insert (p : α → Bool) (m : NameMap α) (key : String) (value : α) :
    (m.insert key value).values.countP p + (m.get? key).toList.countP p =
      m.values.countP p + [value].countP p := by
  obtain ⟨l, hl⟩ := m
  simp only [insert, values, get?]
  induction l with
  | nil => simp [insertEntry]
  | cons e rest ih =>
    obtain ⟨k, v⟩ := e
    have hrest := ih hl.of_cons
    rw [insertEntry]
    split
    · next hlt =>
      -- the key is below all others, so nothing stood under it
      have hnone : (((k, v) :: rest).find? fun e => e.1 = key).map (·.2) = none := by
        rw [Option.map_eq_none_iff, List.find?_eq_none]
        intro e he heq
        have hke : key = e.1 := (of_decide_eq_true heq).symm
        rcases List.mem_cons.1 he with rfl | he
        · exact String.lt_irrefl _ (hke ▸ hlt)
        · have hlt' := String.lt_trans hlt (List.rel_of_pairwise_cons hl he)
          exact String.lt_irrefl _ (hke ▸ hlt')
      rw [hnone]
      simp only [List.map_cons, List.countP_cons, Option.toList_none, List.countP_nil]
      omega
    · split
      · next heq =>
        subst heq
        simp only [List.map_cons, List.countP_cons, List.countP_nil, List.find?_cons,
          decide_true, Option.map_some, Option.toList_some]
        omega
      · next hne =>
        have hne' : ¬ k = key := fun e => hne e.symm
        simp only [List.map_cons, List.countP_cons, List.find?_cons, hne', decide_false] at hrest ⊢
        omega

/-- A function goes through an insertion. -/
theorem map_insert {β : Type} (m : NameMap α) (f : α → β) (key : String) (value : α) :
    (m.insert key value).map f = (m.map f).insert key (f value) := by
  refine ext_get? fun k => ?_
  rw [get?_map, get?_insert, get?_insert, get?_map]
  split
  · rfl
  · rfl

/-! ## Keys in ascending order -/

/-- The first value that passes a test is the one that passes it under the least key. -/
theorem find?_values_eq_some_iff {m : NameMap α} {p : α → Bool} {v : α} :
    m.values.find? p = some v ↔
      ∃ k, m.get? k = some v ∧ p v = true ∧
        ∀ k' v', m.get? k' = some v' → p v' = true → k' = k ∨ k < k' := by
  simp only [get?_eq_some_iff]
  obtain ⟨l, hl⟩ := m
  simp only [values]
  induction l with
  | nil => simp
  | cons e rest ih =>
    obtain ⟨key, value⟩ := e
    have hrest := ih hl.of_cons
    have hfirst : ∀ e ∈ rest, key < e.1 := fun e he => List.rel_of_pairwise_cons hl he
    rw [List.map_cons]
    cases hp : p value with
    | true =>
      rw [List.find?_cons_of_pos hp]
      constructor
      · rintro ⟨⟩
        refine ⟨key, List.mem_cons_self, hp, fun k' v' hmem _ => ?_⟩
        rcases List.mem_cons.1 hmem with heq | hmem
        · exact .inl (Prod.mk.inj heq).1
        · exact .inr (hfirst _ hmem)
      · rintro ⟨k, hmem, -, hleast⟩
        rcases List.mem_cons.1 hmem with heq | hmem
        · rw [(Prod.mk.inj heq).2]
        · -- the first entry passes, and its key is less
          exfalso
          have hlt := hfirst _ hmem
          rcases hleast key value List.mem_cons_self hp with rfl | hlt'
          · exact String.lt_irrefl _ hlt
          · exact String.lt_irrefl _ (String.lt_trans hlt hlt')
    | false =>
      rw [List.find?_cons_of_neg (by simp [hp]), hrest]
      constructor
      · rintro ⟨k, hmem, hv, hleast⟩
        refine ⟨k, List.mem_cons_of_mem _ hmem, hv, fun k' v' hmem' hp' => ?_⟩
        rcases List.mem_cons.1 hmem' with heq | hmem'
        · rw [(Prod.mk.inj heq).2, hp] at hp'
          cases hp'
        · exact hleast k' v' hmem' hp'
      · rintro ⟨k, hmem, hv, hleast⟩
        rcases List.mem_cons.1 hmem with heq | hmem
        · rw [(Prod.mk.inj heq).2, hp] at hv
          cases hv
        · exact ⟨k, hmem, hv, fun k' v' hmem' => hleast k' v' (List.mem_cons_of_mem _ hmem')⟩

theorem insertEntry_of_lt {key : String} {value : α} {l : List (String × α)}
    (h : ∀ e ∈ l, e.1 < key) : insertEntry key value l = l ++ [(key, value)] := by
  induction l with
  | nil => rfl
  | cons e rest ih =>
    obtain ⟨k, v⟩ := e
    have hk : k < key := h (k, v) List.mem_cons_self
    have hnlt : ¬ key < k := fun hlt => String.lt_irrefl _ (String.lt_trans hk hlt)
    have hne : key ≠ k := fun e => String.lt_irrefl _ (e ▸ hk)
    rw [insertEntry, if_neg hnlt, if_neg hne, ih fun e he => h e (List.mem_cons_of_mem _ he),
      List.cons_append]

/-- A key above all others is inserted at the end. -/
theorem entries_insert_of_lt {m : NameMap α} {key : String} (value : α)
    (h : ∀ e ∈ m.entries, e.1 < key) :
    (m.insert key value).entries = m.entries ++ [(key, value)] :=
  insertEntry_of_lt h

theorem get?_eq_none_of_lt {m : NameMap α} {key : String} (h : ∀ e ∈ m.entries, e.1 < key) :
    m.get? key = none := by
  rw [get?_eq_none_iff]
  intro e he heq
  exact String.lt_irrefl _ (heq ▸ h e he)

/-- What holds of the empty map and is kept when a key above all others is inserted holds of every
map. -/
theorem ascending_induction {motive : NameMap α → Prop} (empty : motive .empty)
    (insert : ∀ (m : NameMap α) (key : String) (value : α), (∀ e ∈ m.entries, e.1 < key) →
      motive m → motive (m.insert key value)) (m : NameMap α) : motive m := by
  obtain ⟨l, hl⟩ := m
  induction l using List.reverseRecOn with
  | nil => exact empty
  | append_singleton front last ih =>
    obtain ⟨key, value⟩ := last
    obtain ⟨hfront, -, hlast⟩ := List.pairwise_append.1 hl
    have hlt : ∀ e ∈ front, e.1 < key := fun e he => hlast e he _ List.mem_cons_self
    -- the last entry is the one that has been inserted last
    have heq : (⟨front ++ [(key, value)], hl⟩ : NameMap α) =
        (⟨front, hfront⟩ : NameMap α).insert key value :=
      ext (entries_insert_of_lt (m := ⟨front, hfront⟩) value hlt).symm
    rw [heq]
    exact insert _ key value hlt (ih hfront)

/-- Entries that are put in one after the other take the place of what was there. -/
theorem get?_foldl_insert (m new : NameMap α) (k : String) :
    (new.entries.foldl (fun m e => m.insert e.1 e.2) m).get? k = (new.get? k).or (m.get? k) := by
  induction new using ascending_induction with
  | empty => rfl
  | insert new key value hlt ih =>
    rw [entries_insert_of_lt value hlt, List.foldl_append, List.foldl_cons, List.foldl_nil,
      get?_insert, get?_insert]
    by_cases hk : key = k
    · rw [if_pos hk, if_pos hk]
      rfl
    · rw [if_neg hk, if_neg hk, ih]

/-! ## Entries in any order -/

theorem ofList_concat (l : List (String × α)) (e : String × α) :
    ofList (l ++ [e]) = (ofList l).insert e.1 e.2 := by
  rw [ofList, List.foldl_append]
  rfl

theorem mem_of_get?_ofList {l : List (String × α)} {k : String} {v : α}
    (h : (ofList l).get? k = some v) : (k, v) ∈ l := by
  induction l using List.reverseRecOn with
  | nil => cases h
  | append_singleton l e ih =>
    rw [ofList_concat, get?_insert] at h
    by_cases hk : e.1 = k
    · rw [if_pos hk] at h
      obtain rfl := hk
      obtain rfl := Option.some.inj h
      exact List.mem_append_right _ List.mem_cons_self
    · rw [if_neg hk] at h
      exact List.mem_append_left _ (ih h)

/-- The keys of a map are those of the entries that it is made of. -/
theorem mem_keys_ofList_iff {l : List (String × α)} {k : String} :
    k ∈ (ofList l).keys ↔ k ∈ l.map (·.1) := by
  rw [mem_keys_iff]
  constructor
  · rintro ⟨v, hget⟩
    exact List.mem_map.2 ⟨_, mem_of_get?_ofList hget, rfl⟩
  · intro hmem
    induction l using List.reverseRecOn with
    | nil => cases hmem
    | append_singleton l e ih =>
      rw [ofList_concat, get?_insert]
      by_cases hk : e.1 = k
      · exact ⟨e.2, if_pos hk⟩
      · rw [if_neg hk]
        rw [List.map_append, List.mem_append, List.map_singleton, List.mem_singleton] at hmem
        exact ih (hmem.resolve_right (Ne.symm hk))

/-- Where no key is there twice, every entry stands under its key. -/
theorem get?_ofList_iff {l : List (String × α)} (h : (l.map (·.1)).Nodup) {k : String} {v : α} :
    (ofList l).get? k = some v ↔ (k, v) ∈ l := by
  constructor
  · exact mem_of_get?_ofList
  · intro hmem
    induction l using List.reverseRecOn with
    | nil => cases hmem
    | append_singleton l e ih =>
      rw [List.map_append, List.nodup_append] at h
      obtain ⟨hl, -, hfresh⟩ := h
      rw [ofList_concat, get?_insert]
      rcases List.mem_append.1 hmem with hmem | hmem
      · -- the key of the last entry is not there before
        have hne : e.1 ≠ k := by
          rintro rfl
          exact hfresh e.1 (List.mem_map.2 ⟨_, hmem, rfl⟩) e.1 (by simp) rfl
        rw [if_neg hne]
        exact ih hl hmem
      · rw [← List.mem_singleton.1 hmem, if_pos rfl]

theorem nodup_keys (m : NameMap α) : (m.entries.map (·.1)).Nodup := by
  rw [List.Nodup, List.pairwise_map]
  refine m.ascending.imp ?_
  intro a b hlt heq
  exact String.lt_irrefl _ (heq ▸ hlt)

theorem nodup_entries (m : NameMap α) : m.entries.Nodup :=
  List.Nodup.of_map _ m.nodup_keys

/-- A map is the map of its entries, in whichever order they come. -/
theorem ofList_of_perm {m : NameMap α} {l : List (String × α)} (h : l.Perm m.entries) :
    ofList l = m := by
  have hnodup : (l.map (·.1)).Nodup := (h.map _).nodup_iff.2 m.nodup_keys
  refine ext_get? fun k => Option.ext fun v => ?_
  rw [get?_ofList_iff hnodup, get?_eq_some_iff, h.mem_iff]

/-- The values of a map of entries with distinct keys are the values of the entries. -/
theorem values_ofList_perm {l : List (String × α)} (h : (l.map (·.1)).Nodup) :
    (ofList l).values.Perm (l.map (·.2)) := by
  have hentries : (ofList l).entries.Perm l := by
    refine (List.perm_ext_iff_of_nodup ?_ ?_).2 ?_
    · exact (ofList l).nodup_entries
    · exact List.Nodup.of_map _ h
    · rintro ⟨k, v⟩
      rw [← get?_eq_some_iff, get?_ofList_iff h]
  exact hentries.map _

/-- Values stand under their own keys in a map, and are all its values, exactly if no two have one
key and the map is that of the values under their keys. -/
theorem perm_values_iff {key : α → String} {m : NameMap α} {items : List α} :
    ((∀ e ∈ m.entries, key e.2 = e.1) ∧ items.Perm m.values) ↔
      (items.map key).Nodup ∧ m = ofList (items.map fun a => (key a, a)) := by
  have hkeys : (items.map fun a => (key a, a)).map (·.1) = items.map key := by
    rw [List.map_map]
    rfl
  constructor
  · rintro ⟨hkeyed, hperm⟩
    have hentries : m.values.map (fun a => (key a, a)) = m.entries := by
      rw [values, List.map_map]
      conv_rhs => rw [← List.map_id m.entries]
      exact List.map_congr_left fun e he => Prod.ext (hkeyed e he) rfl
    have hpairs : (items.map fun a => (key a, a)).Perm m.entries := hentries ▸ hperm.map _
    refine ⟨hkeys ▸ (hpairs.map (·.1)).nodup_iff.2 m.nodup_keys, (ofList_of_perm hpairs).symm⟩
  · rintro ⟨hnodup, rfl⟩
    have hpairs : ((items.map fun a => (key a, a)).map (·.1)).Nodup := hkeys ▸ hnodup
    constructor
    · rintro ⟨k, a⟩ he
      obtain ⟨b, -, heq⟩ := List.mem_map.1 (mem_of_get?_ofList (get?_eq_some_iff.2 he))
      cases heq
      rfl
    · have hvalues := values_ofList_perm hpairs
      rw [List.map_map] at hvalues
      exact (List.map_id items ▸ hvalues).symm

/-- An insertion takes out what stands under the key and puts the new entry in. -/
theorem entries_insert_perm (m : NameMap α) (key : String) (value : α) :
    (m.insert key value).entries.Perm ((key, value) :: (m.erase key).entries) := by
  have hfresh : (key, value) ∉ (m.erase key).entries := by
    intro hmem
    have hne := (List.mem_filter.1 hmem).2
    simp at hne
  refine (List.perm_ext_iff_of_nodup (nodup_entries _)
    (List.nodup_cons.2 ⟨hfresh, nodup_entries _⟩)).2 ?_
  rintro ⟨k, v⟩
  rw [← get?_eq_some_iff, get?_insert, List.mem_cons, erase, List.mem_filter, ← get?_eq_some_iff]
  by_cases hk : key = k
  · subst hk
    simp [eq_comm]
  · have hk' : k ≠ key := fun h => hk h.symm
    simp [hk, hk']

/-- A fresh key comes to the keys that were there. -/
theorem keys_insert_of_fresh {m : NameMap α} {key : String} (value : α)
    (hfresh : m.get? key = none) : (m.insert key value).keys.Perm (key :: m.keys) := by
  have hnot : key ∉ m.keys := not_mem_keys_iff.2 (contains_eq_false_iff.2 hfresh)
  have hnodup : (key :: m.keys).Nodup := List.nodup_cons.2 ⟨hnot, m.nodup_keys⟩
  refine (List.perm_ext_iff_of_nodup (nodup_keys _) hnodup).2 fun k => ?_
  show k ∈ (m.insert key value).keys ↔ _
  rw [List.mem_cons, mem_keys_iff, mem_keys_iff, get?_insert]
  by_cases hk : key = k
  · simp [hk]
  · have hk' : k ≠ key := fun heq => hk heq.symm
    simp [hk, hk']

/-- A new value under a key that had one leaves the keys as they are. -/
theorem keys_insert_of_get? {m : NameMap α} {key : String} {old : α} (value : α)
    (hold : m.get? key = some old) : (m.insert key value).keys.Perm m.keys := by
  refine (List.perm_ext_iff_of_nodup (nodup_keys _) m.nodup_keys).2 fun k => ?_
  show k ∈ (m.insert key value).keys ↔ k ∈ m.keys
  rw [mem_keys_iff, mem_keys_iff, get?_insert]
  by_cases hk : key = k
  · rw [← hk, hold]
    simp
  · simp [hk]

/-- Without a key, the values that stand under theirs are those with another one. -/
theorem values_erase_of_keyed {of : α → String} {m : NameMap α} (h : ∀ e ∈ m.entries, of e.2 = e.1)
    (key : String) : (m.erase key).values = m.values.filter fun a => of a ≠ key := by
  have hkeep : m.entries.filter (fun e => e.1 ≠ key) =
      m.entries.filter ((fun a => of a ≠ key) ∘ fun e => e.2) := by
    refine List.filter_congr fun e he => ?_
    rw [Function.comp_apply, h e he]
  rw [values, values, List.filter_map, ← hkeep, erase]

/-- A loop that takes values in one after the other, each under its own key, and stops at a key that
is taken.  It goes through exactly if no key is there twice, and then its map is that of the values
under their keys.  `view` is the map in the state of the loop, which starts without an entry. -/
theorem exists_foldlM_insert_iff {σ ε : Type} (view : σ → NameMap α) (key : α → String)
    (step : σ → α → Except ε σ)
    (hstep : ∀ s a m, (∃ s', step s a = .ok s' ∧ view s' = m) ↔
      (view s).get? (key a) = none ∧ m = (view s).insert (key a) a)
    (start : σ) (hstart : view start = empty) (items : List α) (m : NameMap α) :
    (∃ s, items.foldlM step start = .ok s ∧ view s = m) ↔
      (items.map key).Nodup ∧ m = ofList (items.map fun a => (key a, a)) := by
  induction items using List.reverseRecOn generalizing m with
  | nil =>
    constructor
    · rintro ⟨s, hs, rfl⟩
      cases hs
      exact ⟨List.nodup_nil, hstart⟩
    · rintro ⟨-, rfl⟩
      exact ⟨start, rfl, hstart⟩
  | append_singleton items a ih =>
    rw [List.foldlM_append, List.map_append, List.map_append, List.map_singleton,
      List.map_singleton, ofList_concat]
    have hkeys : ((items.map fun a => (key a, a)).map (·.1)) = items.map key := by
      rw [List.map_map]
      rfl
    -- the last key is free exactly if it is none of the keys before it
    have hfree (hnodup : (items.map key).Nodup) :
        (ofList (items.map fun a => (key a, a))).get? (key a) = none ↔ key a ∉ items.map key := by
      constructor
      · intro hnone hmem
        obtain ⟨b, hb, hkey⟩ := List.mem_map.1 hmem
        have hpairs : ((items.map fun a => (key a, a)).map (·.1)).Nodup := hkeys ▸ hnodup
        have hsome := (get?_ofList_iff hpairs).2 (List.mem_map.2 ⟨b, hb, rfl⟩)
        rw [hkey, hnone] at hsome
        cases hsome
      · intro hnot
        rw [Option.eq_none_iff_forall_ne_some]
        intro b hb
        obtain ⟨c, hc, heq⟩ := List.mem_map.1 (mem_of_get?_ofList hb)
        exact hnot (List.mem_map.2 ⟨c, hc, (Prod.mk.inj heq).1⟩)
    have hnodup : (items.map key ++ [key a]).Nodup ↔
        (items.map key).Nodup ∧ key a ∉ items.map key := by
      rw [← List.concat_eq_append, List.nodup_concat, and_comm]
    rw [hnodup]
    constructor
    · rintro ⟨s', hs', rfl⟩
      cases hs : items.foldlM step start with
      | error e =>
        rw [hs] at hs'
        cases hs'
      | ok s =>
        rw [hs] at hs'
        obtain ⟨hitems, hview⟩ := (ih (view s)).1 ⟨s, hs, rfl⟩
        have hlast : step s a = .ok s' := by
          change (step s a >>= pure) = .ok s' at hs'
          rwa [bind_pure] at hs'
        obtain ⟨hnone, hinsert⟩ := (hstep s a (view s')).1 ⟨s', hlast, rfl⟩
        rw [hview] at hnone hinsert
        exact ⟨⟨hitems, (hfree hitems).1 hnone⟩, hinsert⟩
    · rintro ⟨⟨hitems, hnot⟩, rfl⟩
      obtain ⟨s, hs, hview⟩ := (ih _).2 ⟨hitems, rfl⟩
      have hnone := (hfree hitems).2 hnot
      rw [← hview] at hnone
      obtain ⟨s', hlast, hs'⟩ := (hstep s a _).2 ⟨hnone, rfl⟩
      refine ⟨s', ?_, hview ▸ hs'⟩
      rw [hs]
      exact (bind_pure (step s a)).trans hlast

end FileTriage.NameMap
