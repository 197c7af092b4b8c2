/-
Free keys.

A key that is taken gets the suffix ` (Custom)` as often as it takes to be free.  The search has
room for one key more than are taken, and the keys that it tries are all different, so it ends at
a free one, which is the first.  Its room is never missed: to go on without any bound leads to the
same key (`searches_customKey_iff`).
-/
import FileTriage.Definitions.Reconcile
import FileTriage.Proofs.NameMap
import FileTriage.Proofs.Text.ByteOrder
import Mathlib.Data.List.Perm.Subperm
import Mathlib.Order.Bounds.Basic

namespace FileTriage.Definitions

/-- A key with so many copies of the suffix. -/
def customKey (key : String) : Nat → String
  | 0 => key
  | n + 1 => customKey key n ++ customSuffix

@[simp] theorem customKey_zero (key : String) : customKey key 0 = key := rfl

theorem customKey_succ (key : String) (n : Nat) :
    customKey key (n + 1) = customKey key n ++ customSuffix := rfl

/-- Copies of the suffix add up. -/
theorem customKey_customKey (key : String) (m n : Nat) :
    customKey (customKey key m) n = customKey key (m + n) := by
  induction n with
  | zero => rfl
  | succ n ih => rw [customKey_succ, ih, Nat.add_succ, customKey_succ]

theorem length_customKey (key : String) (n : Nat) :
    (customKey key n).length = key.length + 9 * n := by
  induction n with
  | zero => rfl
  | succ n ih =>
    have hsuffix : customSuffix.length = 9 := rfl
    rw [customKey_succ, String.length_append, ih, hsuffix]
    omega

/-- Keys with different numbers of copies are different. -/
theorem customKey_injective (key : String) : Function.Injective (customKey key) := by
  intro m n heq
  have hlength := congrArg String.length heq
  rw [length_customKey, length_customKey] at hlength
  omega

/-! ## The search -/

/-- The search stops at the first free candidate, or where its room ends. -/
theorem freeKeyFrom_customKey (taken : Definitions) (room : Nat) (key : String) (i : Nat) :
    ∃ n, i ≤ n ∧ n ≤ i + room ∧ freeKeyFrom taken room (customKey key i) = customKey key n ∧
      (∀ j, i ≤ j → j < n → taken.contains (customKey key j) = true) ∧
      (n < i + room → taken.contains (customKey key n) = false) := by
  induction room generalizing i with
  | zero =>
    refine ⟨i, Nat.le_refl i, Nat.le_refl i, rfl, ?_, ?_⟩
    · intro j hij hji
      omega
    · intro h
      omega
  | succ room ih =>
    rw [freeKeyFrom]
    by_cases htaken : taken.contains (customKey key i) = true
    -- the candidate is taken, and the search goes on with one more suffix
    · rw [if_pos htaken, ← customKey_succ]
      obtain ⟨n, hin, hn, heq, hbefore, hfree⟩ := ih (i + 1)
      refine ⟨n, by omega, by omega, heq, ?_, fun h => hfree (by omega)⟩
      intro j hij hjn
      by_cases hj : j = i
      · rw [hj]
        exact htaken
      · exact hbefore j (by omega) hjn
    · rw [if_neg htaken]
      refine ⟨i, Nat.le_refl i, by omega, rfl, ?_, fun _ => by simpa using htaken⟩
      intro j hij hji
      omega

/-- Not all of one candidate more than there are keys can be taken. -/
theorem exists_not_contains_customKey (taken : Definitions) (key : String) :
    ∃ n, 1 ≤ n ∧ n ≤ taken.size + 1 ∧ taken.contains (customKey key n) = false := by
  by_contra hnone
  have hall : ∀ n, 1 ≤ n → n ≤ taken.size + 1 → customKey key n ∈ taken.keys := by
    intro n h1 h2
    rw [NameMap.mem_keys_iff, ← NameMap.contains_eq_true_iff]
    by_contra hfree
    exact hnone ⟨n, h1, h2, by simpa using hfree⟩
  -- otherwise these candidates, which are all different, are more than there are keys
  let candidates := (List.range (taken.size + 1)).map fun i => customKey key (i + 1)
  have hnodup : candidates.Nodup := by
    refine List.Nodup.map ?_ List.nodup_range
    intro i j heq
    exact Nat.succ_injective (customKey_injective key heq)
  have hsubset : candidates ⊆ taken.keys := by
    intro candidate hmem
    obtain ⟨i, hi, rfl⟩ := List.mem_map.1 hmem
    rw [List.mem_range] at hi
    exact hall (i + 1) (by omega) (by omega)
  have hle := (List.subperm_of_subset hnodup hsubset).length_le
  rw [List.length_map, List.length_range, NameMap.keys, List.length_map] at hle
  rw [NameMap.size] at hle
  omega

/-- The free key is the first of the candidates that is not taken. -/
theorem freeKey_eq_customKey (taken : Definitions) (key : String) :
    ∃ n, 1 ≤ n ∧ n ≤ taken.size + 1 ∧ freeKey taken key = customKey key n ∧
      taken.get? (customKey key n) = none ∧
      ∀ j, 1 ≤ j → j < n → taken.contains (customKey key j) = true := by
  obtain ⟨n, h1, hn, heq, hbefore, hfree⟩ := freeKeyFrom_customKey taken taken.size key 1
  obtain ⟨k, hk1, hk, hkfree⟩ := exists_not_contains_customKey taken key
  -- the search does not pass a candidate that is free
  have hnk : n ≤ k := by
    by_contra hlt
    have htaken := hbefore k hk1 (by omega)
    rw [hkfree] at htaken
    cases htaken
  refine ⟨n, h1, by omega, heq, ?_, hbefore⟩
  rw [← NameMap.contains_eq_false_iff]
  by_cases hlt : n < 1 + taken.size
  · exact hfree hlt
  · -- the search has come to its end, and there only one candidate was left
    have hkn : k = n := by omega
    exact hkn ▸ hkfree

/-- The free key is free. -/
theorem get?_freeKey (taken : Definitions) (key : String) :
    taken.get? (freeKey taken key) = none := by
  obtain ⟨n, -, -, heq, hfree, -⟩ := freeKey_eq_customKey taken key
  rw [heq]
  exact hfree

theorem freeKey_ne (taken : Definitions) (key : String) : freeKey taken key ≠ key := by
  obtain ⟨n, h1, -, heq, -, -⟩ := freeKey_eq_customKey taken key
  rw [heq]
  intro hkey
  have h0 : n = 0 := customKey_injective key hkey
  omega

/-! ## The search without a bound -/

/-- To go on from a candidate until one is free: so many more suffixes, and the key that is found. -/
inductive Searches (taken : Definitions) : String → Nat → String → Prop
  | free {candidate : String} (h : taken.contains candidate = false) :
    Searches taken candidate 0 candidate
  | extend {candidate found : String} {more : Nat} (h : taken.contains candidate = true)
    (rest : Searches taken (candidate ++ customSuffix) more found) :
    Searches taken candidate (more + 1) found

/-- The search passes the candidates that are taken and ends at the first that is not. -/
theorem searches_customKey_iff {taken : Definitions} {key found : String} {i more : Nat} :
    Searches taken (customKey key i) more found ↔
      found = customKey key (i + more) ∧ taken.contains (customKey key (i + more)) = false ∧
        ∀ j, i ≤ j → j < i + more → taken.contains (customKey key j) = true := by
  induction more generalizing i with
  | zero =>
    constructor
    · rintro ⟨hfree⟩
      refine ⟨rfl, hfree, fun j hij hj => ?_⟩
      omega
    · rintro ⟨rfl, hfree, -⟩
      exact .free hfree
  | succ more ih =>
    have hsum : i + 1 + more = i + (more + 1) := by omega
    constructor
    · rintro (_ | ⟨htaken, hrest⟩)
      rw [← customKey_succ, ih, hsum] at hrest
      obtain ⟨hfound, hfree, hbefore⟩ := hrest
      refine ⟨hfound, hfree, fun j hij hj => ?_⟩
      by_cases hj' : j = i
      · rw [hj']
        exact htaken
      · exact hbefore j (by omega) hj
    · rintro ⟨hfound, hfree, hbefore⟩
      refine .extend (hbefore i (by omega) (by omega)) ?_
      rw [← customKey_succ, ih, hsum]
      exact ⟨hfound, hfree, fun j hij hj => hbefore j (by omega) hj⟩

/-- A number of suffixes that makes the key free. -/
def Frees (taken : Definitions) (key : String) (n : Nat) : Prop :=
  1 ≤ n ∧ customKey key n ∉ taken.keys

/-- The free key has the smallest number of suffixes, which is at most one more than there are
keys. -/
theorem exists_isLeast_freeKey (taken : Definitions) (key : String) :
    ∃ n, IsLeast {m | Frees taken key m} n ∧ n ≤ taken.size + 1 ∧
      freeKey taken key = customKey key n := by
  obtain ⟨n, h1, hn, heq, hfree, hbefore⟩ := freeKey_eq_customKey taken key
  have hfrees : Frees taken key n :=
    ⟨h1, NameMap.not_mem_keys_iff.2 (NameMap.contains_eq_false_iff.2 hfree)⟩
  refine ⟨n, ⟨hfrees, ?_⟩, hn, heq⟩
  rintro m ⟨hm, hmfree⟩
  -- fewer suffixes lead to a key that is taken
  refine Nat.le_of_not_lt fun hmn => ?_
  rw [NameMap.not_mem_keys_iff, hbefore m hm hmn] at hmfree
  cases hmfree

/-- The search ends at the smallest number of suffixes, and nowhere else. -/
theorem searches_iff_of_isLeast {taken : Definitions} {key found : String} {n more : Nat}
    (h : IsLeast {m | Frees taken key m} n) :
    Searches taken (key ++ customSuffix) more found ↔ more = n - 1 ∧ found = customKey key n := by
  obtain ⟨⟨h1, hfree⟩, hleast⟩ := h
  have hfirst : key ++ customSuffix = customKey key 1 := rfl
  have htaken : ∀ j, 1 ≤ j → j < n → taken.contains (customKey key j) = true := by
    intro j hj hjn
    by_contra hnot
    have hle : n ≤ j := hleast ⟨hj, NameMap.not_mem_keys_iff.2 (by simpa using hnot)⟩
    omega
  rw [hfirst, searches_customKey_iff, ← NameMap.not_mem_keys_iff]
  constructor
  · rintro ⟨rfl, hfound, hpassed⟩
    have hle : n ≤ 1 + more := hleast ⟨by omega, hfound⟩
    have hge : 1 + more ≤ n := by
      by_contra hlt
      rw [NameMap.not_mem_keys_iff, hpassed n h1 (by omega)] at hfree
      cases hfree
    have hsame : 1 + more = n := Nat.le_antisymm hge hle
    exact ⟨by omega, congrArg (customKey key) hsame⟩
  · rintro ⟨rfl, rfl⟩
    have hsame : 1 + (n - 1) = n := by omega
    rw [hsame]
    exact ⟨rfl, hfree, htaken⟩

/-! ## The key that is found -/

/-- The bytes of a key with suffixes are those of the key, and then those of each copy. -/
theorem encode_customKey (key : String) (n : Nat) :
    Text.Utf8.encode (customKey key n) =
      Text.Utf8.encode key ++ (List.replicate n (Text.Utf8.encode customSuffix)).flatten := by
  induction n with
  | zero => rw [customKey_zero, List.replicate_zero, List.flatten_nil, List.append_nil]
  | succ n ih =>
    rw [customKey_succ, Text.Utf8.encode_append, ih, List.replicate_succ', List.flatten_concat,
      List.append_assoc]

/-- A key comes before what becomes of it with suffixes, byte by byte, and is shorter. -/
theorem encode_lt_encode_customKey (key : String) {n : Nat} (hn : 1 ≤ n) :
    Text.Utf8.encode key < Text.Utf8.encode (customKey key n) ∧
      (Text.Utf8.encode key).length < (Text.Utf8.encode (customKey key n)).length := by
  obtain ⟨m, rfl⟩ := Nat.exists_eq_add_of_le' hn
  obtain ⟨b, bytes, hsuffix⟩ : ∃ b bytes, Text.Utf8.encode customSuffix = b :: bytes :=
    ⟨_, _, rfl⟩
  rw [encode_customKey, List.replicate_succ, List.flatten_cons, hsuffix, List.cons_append]
  constructor
  · -- what is appended begins with a byte
    conv_lhs => rw [← List.append_nil (Text.Utf8.encode key)]
    exact List.append_left_lt (List.nil_lt_cons b _)
  · rw [List.length_append, List.length_cons]
    omega

/-- The free key is the key with the smallest positive number of suffixes that makes it free.  The
search for it, with no bound set, adds at most as many suffixes to the first as there are keys, and
ends there in the only way it can.  The free key is longer than the key, different from it, after it
in the order of bytes, and not blank. -/
theorem freeKey_is_least (taken : Definitions) (key : String) :
    ∃ n, IsLeast {m | Frees taken key m} n ∧ freeKey taken key = customKey key n ∧
      (n - 1 ≤ taken.size ∧ ∀ more found, Searches taken (key ++ customSuffix) more found ↔
        more = n - 1 ∧ found = freeKey taken key) ∧
      (key.length < (freeKey taken key).length ∧
        (Text.Utf8.encode key).length < (Text.Utf8.encode (freeKey taken key)).length) ∧
      freeKey taken key ≠ key ∧
      Text.Utf8.encode key < Text.Utf8.encode (freeKey taken key) ∧
      Text.allBlank (freeKey taken key) = false := by
  obtain ⟨n, hleast, hn, heq⟩ := exists_isLeast_freeKey taken key
  have h1 : 1 ≤ n := hleast.1.1
  obtain ⟨hlt, hbytes⟩ := encode_lt_encode_customKey key h1
  have hlength : key.length < (customKey key n).length := by
    rw [length_customKey]
    omega
  have hne := freeKey_ne taken key
  have hblank := allBlank_freeKey taken key
  rw [heq] at hne hblank ⊢
  exact ⟨n, hleast, rfl, ⟨by omega, fun more found => searches_iff_of_isLeast hleast⟩,
    ⟨hlength, hbytes⟩, hne, hlt, hblank⟩

end FileTriage.Definitions
