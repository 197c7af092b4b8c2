/-
Finite maps from names, kept in the order of their names.

Names are ordered by code point.  A map is a list of entries in strictly ascending order, so two
maps that answer every look-up alike are equal, and what goes through a map in order meets the
names in the order that every listing shows.
-/
namespace FileTriage

/-- A finite map from text, as entries in strictly ascending order of their keys. -/
structure NameMap (α : Type) where
  entries : List (String × α)
  ascending : entries.Pairwise fun a b => a.1 < b.1
deriving DecidableEq

namespace NameMap

variable {α β : Type}

/-! ## Entry lists -/

/-- Puts an entry at its place, in the place of the entry with the same key if there is one. -/
def insertEntry (key : String) (value : α) : List (String × α) → List (String × α)
  | [] => [(key, value)]
  | (k, v) :: rest =>
    if key < k then (key, value) :: (k, v) :: rest
    else if key = k then (key, value) :: rest
    else (k, v) :: insertEntry key value rest

theorem mem_insertEntry {key : String} {value : α} {e : String × α} {l : List (String × α)}
    (h : e ∈ insertEntry key value l) : e = (key, value) ∨ e ∈ l := by
  induction l with
  | nil => simpa [insertEntry] using h
  | cons x rest ih =>
    obtain ⟨k, v⟩ := x
    rw [insertEntry] at h
    split at h
    · simpa using h
    · split at h
      · rcases List.mem_cons.1 h with h | h
        · exact .inl h
        · exact .inr (List.mem_cons_of_mem _ h)
      · rcases List.mem_cons.1 h with h | h
        · exact .inr (h ▸ List.mem_cons_self)
        · exact (ih h).imp_right (List.mem_cons_of_mem _)

theorem lt_of_not_lt_of_ne {a b : String} (h : ¬ a < b) (ne : a ≠ b) : b < a :=
  Classical.byContradiction fun hn =>
    ne (String.le_antisymm (String.not_lt.1 hn) (String.not_lt.1 h))

theorem insertEntry_ascending (key : String) (value : α) {l : List (String × α)}
    (h : l.Pairwise fun a b => a.1 < b.1) :
    (insertEntry key value l).Pairwise fun a b => a.1 < b.1 := by
  induction l with
  | nil => simp [insertEntry]
  | cons x rest ih =>
    obtain ⟨k, v⟩ := x
    have hk : ∀ e ∈ rest, k < e.1 := fun _ he => List.rel_of_pairwise_cons h he
    rw [insertEntry]
    split
    · next lt =>
      refine List.pairwise_cons.2 ⟨fun e he => ?_, h⟩
      rcases List.mem_cons.1 he with he | he
      · exact he ▸ lt
      · exact String.lt_trans lt (hk e he)
    · split
      · next _ eq => exact List.pairwise_cons.2 ⟨fun e he => eq ▸ hk e he, h.of_cons⟩
      · next nlt ne =>
        refine List.pairwise_cons.2 ⟨fun e he => ?_, ih h.of_cons⟩
        rcases mem_insertEntry he with he | he
        · exact he ▸ lt_of_not_lt_of_ne nlt ne
        · exact hk e he

/-! ## Maps -/

/-- The map with no entry. -/
def empty : NameMap α := ⟨[], .nil⟩

instance : Inhabited (NameMap α) := ⟨empty⟩

/-- The value under a key. -/
def get? (m : NameMap α) (key : String) : Option α :=
  (m.entries.find? fun e => e.1 = key).map (·.2)

/-- Whether a key has a value. -/
def contains (m : NameMap α) (key : String) : Bool := (m.get? key).isSome

/-- The map with a value under a key, in the place of the value it had. -/
def insert (m : NameMap α) (key : String) (value : α) : NameMap α :=
  ⟨insertEntry key value m.entries, insertEntry_ascending key value m.ascending⟩

/-- The map without a key. -/
def erase (m : NameMap α) (key : String) : NameMap α :=
  ⟨m.entries.filter fun e => e.1 ≠ key, m.ascending.filter _⟩

/-- The entries that pass a test. -/
def filter (m : NameMap α) (keep : String → α → Bool) : NameMap α :=
  ⟨m.entries.filter fun e => keep e.1 e.2, m.ascending.filter _⟩

/-- The map with a function applied to every value. -/
def map (m : NameMap α) (f : α → β) : NameMap β :=
  ⟨m.entries.map fun e => (e.1, f e.2), List.Pairwise.map _ (fun _ _ h => h) m.ascending⟩

/-- The map of a list of entries; of two entries with the same key the later one counts. -/
def ofList (entries : List (String × α)) : NameMap α :=
  entries.foldl (fun m e => m.insert e.1 e.2) empty

/-- The keys in ascending order. -/
def keys (m : NameMap α) : List String := m.entries.map (·.1)

/-- The values in the order of their keys. -/
def values (m : NameMap α) : List α := m.entries.map (·.2)

/-- How many entries the map has. -/
def size (m : NameMap α) : Nat := m.entries.length

/-- Whether the map has no entry. -/
def isEmpty (m : NameMap α) : Bool := m.entries.isEmpty

theorem ext {m n : NameMap α} (h : m.entries = n.entries) : m = n := by
  cases m; cases n; simp_all

end NameMap

/-- A finite set of names, in ascending order. -/
structure NameSet where
  names : List String
  ascending : names.Pairwise (· < ·)
deriving DecidableEq

namespace NameSet

/-- The set of a list of names. -/
def ofList (names : List String) : NameSet :=
  let m : NameMap Unit := .ofList (names.map fun n => (n, ()))
  ⟨m.keys, List.Pairwise.map _ (fun _ _ h => h) m.ascending⟩

instance : Inhabited NameSet := ⟨⟨[], .nil⟩⟩

/-- Whether a name belongs to the set. -/
def contains (s : NameSet) (name : String) : Bool := s.names.contains name

end NameSet

end FileTriage
