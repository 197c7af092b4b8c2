/-
Paths and their components.

A path that begins and ends with a separator is determined by what stands between its separators,
and one such path occurs in another exactly if its components are a run of the components of the
other (`enclosed_infix_iff`).  Every normal form is such a path.  It stays the same when the other
separator is written, when separators are added at the ends, and when it is taken again.
-/
import FileTriage.Path
import Mathlib.Data.List.DropRight

namespace FileTriage.Path

/-- What stands between the separators of a path that begins and ends with one. -/
def components (path : List Char) : List (List Char) := (path.splitOn '/').tail.dropLast

/-- Components with a separator before, between and after them. -/
def enclosed (parts : List (List Char)) : List Char := '/' :: parts.flatMap (· ++ ['/'])

variable {parts others : List (List Char)} {part other text rest : List Char} {c : Char}

/-! ## Paths and components -/

theorem enclosed_nil : enclosed [] = ['/'] := rfl

theorem enclosed_cons (part : List Char) (parts : List (List Char)) :
    enclosed (part :: parts) = '/' :: (part ++ enclosed parts) := by
  simp [enclosed]

/-- The components of a path are those that it has been made of. -/
theorem components_enclosed (h : ∀ part ∈ parts, '/' ∉ part) :
    components (enclosed parts) = parts := by
  have hsplit : (parts.flatMap (· ++ ['/'])).splitOn '/' = parts ++ [[]] := by
    induction parts with
    | nil => rfl
    | cons part parts ih =>
      have hpart : part.splitOn '/' = [part] :=
        List.splitOn_eq_singleton (h part List.mem_cons_self)
      have hparts := ih fun p hp => h p (List.mem_cons_of_mem _ hp)
      rw [List.flatMap_cons, List.append_assoc, List.singleton_append,
        List.splitOn_append_cons_self, hpart, hparts]
      rfl
  have hfirst : (enclosed parts).splitOn '/' = [] :: (parts ++ [[]]) := by
    rw [enclosed, List.splitOn_cons_eq_if_modifyHead, if_pos (beq_self_eq_true _), hsplit]
  rw [components, hfirst, List.tail_cons, List.dropLast_concat]

/-- The root has no components, and a repeated separator makes an empty one. -/
example : components "/".toList = [] ∧ components "/a//b/".toList = [['a'], [], ['b']] := by
  decide

/-- A path begins and ends with a separator, which may be the same one. -/
def IsEnclosed (path : List Char) : Prop :=
  path = ['/'] ∨ ∃ inner, path = '/' :: inner ++ ['/']

/-- A path that begins and ends with a separator is made of components. -/
theorem IsEnclosed.exists_parts {path : List Char} (h : IsEnclosed path) :
    ∃ parts, (∀ part ∈ parts, '/' ∉ part) ∧ path = enclosed parts := by
  rcases h with rfl | ⟨inner, rfl⟩
  · exact ⟨[], by simp, rfl⟩
  · suffices hinner : ∃ part parts, (∀ p ∈ part :: parts, '/' ∉ p) ∧
        inner ++ ['/'] = part ++ enclosed parts by
      obtain ⟨part, parts, hfree, heq⟩ := hinner
      exact ⟨part :: parts, hfree, by rw [List.cons_append, heq, enclosed_cons]⟩
    induction inner with
    | nil => exact ⟨[], [], by simp, rfl⟩
    | cons a inner ih =>
      obtain ⟨part, parts, hfree, heq⟩ := ih
      by_cases ha : a = '/'
      · -- the separator ends an empty component
        refine ⟨[], part :: parts, List.forall_mem_cons.2 ⟨List.not_mem_nil, hfree⟩, ?_⟩
        rw [List.cons_append, heq, ha, enclosed_cons, List.nil_append]
      · obtain ⟨hpart, hparts⟩ := List.forall_mem_cons.1 hfree
        refine ⟨a :: part, parts, List.forall_mem_cons.2 ⟨?_, hparts⟩, ?_⟩
        · rw [List.mem_cons, not_or]
          exact ⟨Ne.symm ha, hpart⟩
        · rw [List.cons_append, heq, List.cons_append]

/-! ## Paths within paths -/

/-- What stands before the first separator is the same where one path begins with another. -/
theorem append_prefix_append_iff (hpart : '/' ∉ part) (hother : '/' ∉ other) :
    part ++ '/' :: text <+: other ++ '/' :: rest ↔ part = other ∧ text <+: rest := by
  induction part generalizing other with
  | nil =>
    cases other with
    | nil => simp
    | cons a other =>
      have ha : '/' ≠ a := fun heq => hother (heq ▸ List.mem_cons_self)
      simp [ha]
  | cons a part ih =>
    cases other with
    | nil =>
      have ha : a ≠ '/' := fun heq => hpart (heq ▸ List.mem_cons_self)
      simp [ha]
    | cons b other =>
      have hrest := ih (fun h => hpart (List.mem_cons_of_mem _ h))
        (fun h => hother (List.mem_cons_of_mem _ h))
      rw [List.cons_append, List.cons_append, List.cons_prefix_cons, hrest, List.cons.injEq,
        and_assoc]

/-- A path begins with another exactly if its components do. -/
theorem enclosed_prefix_iff (hparts : ∀ part ∈ parts, '/' ∉ part)
    (hothers : ∀ other ∈ others, '/' ∉ other) :
    enclosed parts <+: enclosed others ↔ parts <+: others := by
  induction parts generalizing others with
  | nil => simp [enclosed]
  | cons part parts ih =>
    cases others with
    | nil => simp [enclosed]
    | cons other others =>
      obtain ⟨hpart, hparts⟩ := List.forall_mem_cons.1 hparts
      obtain ⟨hother, hothers⟩ := List.forall_mem_cons.1 hothers
      have hrest := ih hparts hothers
      rw [enclosed, enclosed, List.cons_prefix_cons] at hrest
      rw [enclosed_cons, enclosed_cons, List.cons_prefix_cons, enclosed, enclosed,
        append_prefix_append_iff hpart hother, List.cons_prefix_cons, ← hrest]
      simp

/-- A path begins with a separator, so it does not begin within a component. -/
theorem enclosed_infix_append_iff (hpart : '/' ∉ part) :
    enclosed parts <:+: part ++ text ↔ enclosed parts <:+: text := by
  induction part with
  | nil => rw [List.nil_append]
  | cons a part ih =>
    have ha : '/' ≠ a := fun heq => hpart (heq ▸ List.mem_cons_self)
    have hrest := ih fun h => hpart (List.mem_cons_of_mem _ h)
    have hfirst : ¬ enclosed parts <+: a :: (part ++ text) := by
      rw [enclosed, List.cons_prefix_cons]
      exact fun h => ha h.1
    rw [List.cons_append, List.infix_cons_iff, or_iff_right hfirst, hrest]

/-- A path occurs in another exactly if its components are a run of the other's components. -/
theorem enclosed_infix_iff (hparts : ∀ part ∈ parts, '/' ∉ part)
    (hothers : ∀ other ∈ others, '/' ∉ other) :
    enclosed parts <:+: enclosed others ↔ parts <:+: others := by
  induction others with
  | nil =>
    have hprefix := enclosed_prefix_iff hparts hothers
    have hnone : ¬ enclosed parts <:+: [] := by simp [enclosed]
    rw [enclosed_nil] at hprefix ⊢
    rw [List.infix_cons_iff, or_iff_left hnone, hprefix, List.prefix_nil, List.infix_nil]
  | cons other others ih =>
    have hprefix := enclosed_prefix_iff hparts hothers
    obtain ⟨hother, hothers⟩ := List.forall_mem_cons.1 hothers
    rw [enclosed_cons] at hprefix
    rw [enclosed_cons, List.infix_cons_iff, hprefix, enclosed_infix_append_iff hother, ih hothers,
      List.infix_cons_iff]

/-- A path that begins and ends with a separator occurs in another exactly if its components are a
run of the other's components. -/
theorem IsEnclosed.infix_iff {path within : List Char} (hpath : IsEnclosed path)
    (hwithin : IsEnclosed within) :
    path <:+: within ↔ components path <:+: components within := by
  obtain ⟨parts, hparts, rfl⟩ := hpath.exists_parts
  obtain ⟨others, hothers, rfl⟩ := hwithin.exists_parts
  rw [components_enclosed hparts, components_enclosed hothers, enclosed_infix_iff hparts hothers]

/-! ## The last component and the extension -/

/-- A character that occurs in a text occurs there for the last time. -/
theorem exists_append_cons_of_mem (h : c ∈ text) :
    ∃ before after, text = before ++ c :: after ∧ c ∉ after := by
  obtain ⟨after, before, heq, hnot⟩ := List.eq_append_cons_of_mem (List.mem_reverse.2 h)
  refine ⟨before.reverse, after.reverse, ?_, fun hmem => hnot (List.mem_reverse.1 hmem)⟩
  rw [← List.reverse_reverse text, heq, List.reverse_append, List.reverse_cons, List.append_assoc,
    List.singleton_append]

theorem rtakeWhile_append_cons (before : List Char) {after : List Char} (h : c ∉ after) :
    (before ++ c :: after).rtakeWhile (· ≠ c) = after := by
  have hafter : ∀ a ∈ after.reverse, decide (a ≠ c) = true := by
    intro a ha
    rw [decide_eq_true_eq]
    rintro rfl
    exact h (List.mem_reverse.1 ha)
  rw [List.rtakeWhile, List.reverse_append, List.reverse_cons, List.append_assoc,
    List.takeWhile_append_of_pos hafter, List.singleton_append,
    List.takeWhile_cons_of_neg (by simp), List.append_nil, List.reverse_reverse]

theorem rdropWhile_append_cons (before : List Char) {after : List Char} (h : c ∉ after) :
    (before ++ c :: after).rdropWhile (· ≠ c) = before ++ [c] := by
  have hsplit := List.rdropWhile_append_rtakeWhile (p := (· ≠ c)) (l := before ++ c :: after)
  rw [rtakeWhile_append_cons before h] at hsplit
  refine List.append_cancel_right (hsplit.trans ?_)
  rw [List.append_assoc, List.singleton_append]

theorem rtakeWhile_of_not_mem (h : c ∉ text) : text.rtakeWhile (· ≠ c) = text := by
  rw [List.rtakeWhile_eq_self_iff]
  intro a ha
  rw [decide_eq_true_eq]
  rintro rfl
  exact h ha

theorem rdropWhile_of_not_mem (h : c ∉ text) : text.rdropWhile (· ≠ c) = [] := by
  rw [List.rdropWhile_eq_nil_iff]
  intro a ha
  rw [decide_eq_true_eq]
  rintro rfl
  exact h ha

/-- The last component is what stands after the last separator. -/
theorem lastComponent_append_cons (before : List Char) (h : '/' ∉ text) :
    lastComponent (before ++ '/' :: text) = text :=
  rtakeWhile_append_cons before h

theorem lastComponent_of_not_mem (h : '/' ∉ text) : lastComponent text = text :=
  rtakeWhile_of_not_mem h

/-- And what stands before it ends with that separator. -/
theorem beforeLast_append_cons (before : List Char) (h : '/' ∉ text) :
    beforeLast (before ++ '/' :: text) = before ++ ['/'] :=
  rdropWhile_append_cons before h

theorem beforeLast_of_not_mem (h : '/' ∉ text) : beforeLast text = [] :=
  rdropWhile_of_not_mem h

/-- A dot has an extension after it if something stands before it. -/
theorem extensionChars_append_cons {stem : List Char} (hstem : stem ≠ []) (h : '.' ∉ text) :
    extensionChars (stem ++ '.' :: text) = text := by
  have hlength : ¬ (stem ++ ['.']).length ≤ 1 := by
    have hpos := List.length_pos_iff.2 hstem
    rw [List.length_append, List.length_singleton]
    omega
  have hbefore := rdropWhile_append_cons stem h
  have hafter := rtakeWhile_append_cons stem h
  rw [List.rdropWhile] at hbefore
  rw [List.rtakeWhile] at hafter
  rw [extensionChars, hbefore, if_neg hlength, hafter]

/-- An extension stands after the last dot of a name, and something before that dot. -/
theorem exists_of_extensionChars_ne_nil {name : List Char} (h : extensionChars name ≠ []) :
    ∃ stem, stem ≠ [] ∧ '.' ∉ extensionChars name ∧ name = stem ++ '.' :: extensionChars name := by
  have hlength : ¬ (name.rdropWhile (· ≠ '.')).length ≤ 1 := fun hle => h (if_pos hle)
  have hdot : '.' ∈ name := by
    refine Classical.byContradiction fun hnot => hlength ?_
    rw [rdropWhile_of_not_mem hnot]
    exact Nat.zero_le 1
  obtain ⟨stem, after, rfl, hafter⟩ := exists_append_cons_of_mem hdot
  have hstem : stem ≠ [] := by
    rintro rfl
    rw [rdropWhile_append_cons [] hafter] at hlength
    exact hlength (Nat.le_refl 1)
  rw [extensionChars_append_cons hstem hafter]
  exact ⟨stem, hstem, hafter, rfl⟩

/-! ## Normal forms -/

theorem dropWhile_replicate_append (c : Char) (n : Nat) (text : List Char) :
    (List.replicate n c ++ text).dropWhile (· = c) = text.dropWhile (· = c) :=
  List.dropWhile_append_of_pos fun a ha => by simpa using List.eq_of_mem_replicate ha

theorem exists_replicate_append_dropWhile (c : Char) (text : List Char) :
    ∃ n, text = List.replicate n c ++ text.dropWhile (· = c) := by
  induction text with
  | nil => exact ⟨0, rfl⟩
  | cons a text ih =>
    by_cases ha : a = c
    · obtain ⟨n, hn⟩ := ih
      refine ⟨n + 1, ?_⟩
      rw [List.dropWhile_cons_of_pos (by simpa using ha), List.replicate_succ, List.cons_append,
        ← hn, ha]
    · refine ⟨0, ?_⟩
      rw [List.dropWhile_cons_of_neg (by simpa using ha), List.replicate_zero, List.nil_append]

theorem dropTrailing_append_replicate (c : Char) (text : List Char) (n : Nat) :
    dropTrailing c (text ++ List.replicate n c) = dropTrailing c text := by
  rw [dropTrailing, List.reverse_append, List.reverse_replicate, dropWhile_replicate_append,
    dropTrailing]

theorem exists_dropTrailing_append_replicate (c : Char) (text : List Char) :
    ∃ n, text = dropTrailing c text ++ List.replicate n c := by
  obtain ⟨n, hn⟩ := exists_replicate_append_dropWhile c text.reverse
  refine ⟨n, ?_⟩
  rw [dropTrailing, ← List.reverse_replicate, ← List.reverse_append, ← hn, List.reverse_reverse]

theorem getLast?_dropTrailing (c : Char) (text : List Char) :
    (dropTrailing c text).getLast? ≠ some c := by
  intro hlast
  have hhead : (text.reverse.dropWhile (· = c)).head? = some c := by
    rwa [dropTrailing, List.getLast?_reverse] at hlast
  have hnot := List.head?_dropWhile_not (· = c) text.reverse
  rw [hhead] at hnot
  simp at hnot

theorem dropTrailing_of_getLast? {c : Char} {text : List Char} (h : text.getLast? ≠ some c) :
    dropTrailing c text = text := by
  obtain ⟨n, hn⟩ := exists_dropTrailing_append_replicate c text
  cases n with
  | zero => rw [List.replicate_zero, List.append_nil] at hn; exact hn.symm
  | succ n =>
    refine absurd ?_ h
    rw [hn, List.replicate_succ', ← List.append_assoc, List.getLast?_concat]

/-- What is added at the ends is dropped again. -/
theorem dropEnds_replicate_append (c : Char) (text : List Char) (m n : Nat) :
    dropEnds c (List.replicate m c ++ text ++ List.replicate n c) = dropEnds c text := by
  rw [dropEnds, dropEnds, List.append_assoc, dropWhile_replicate_append, List.dropWhile_append]
  split
  · next hempty =>
    have hall : (List.replicate n c).dropWhile (· = c) = [] := by
      have hdrop := dropWhile_replicate_append c n []
      rwa [List.append_nil] at hdrop
    rw [hall, List.isEmpty_iff.1 hempty]
  · exact dropTrailing_append_replicate c _ n

theorem exists_replicate_append_dropEnds (c : Char) (text : List Char) :
    ∃ m n, text = List.replicate m c ++ dropEnds c text ++ List.replicate n c := by
  obtain ⟨m, hm⟩ := exists_replicate_append_dropWhile c text
  obtain ⟨n, hn⟩ := exists_dropTrailing_append_replicate c (text.dropWhile (· = c))
  refine ⟨m, n, ?_⟩
  rw [dropEnds, List.append_assoc, ← hn]
  exact hm

theorem mem_of_mem_dropEnds {a : Char} (h : a ∈ dropEnds c text) : a ∈ text := by
  obtain ⟨m, n, heq⟩ := exists_replicate_append_dropEnds c text
  rw [heq]
  exact List.mem_append_left _ (List.mem_append_right _ h)

theorem dropEnds_dropEnds (c : Char) (text : List Char) :
    dropEnds c (dropEnds c text) = dropEnds c text := by
  obtain ⟨m, n, h⟩ := exists_replicate_append_dropEnds c text
  have hdrop := dropEnds_replicate_append c (dropEnds c text) m n
  rw [← h] at hdrop
  exact hdrop.symm

theorem not_mem_unifySeparators (path : List Char) : '\\' ∉ unifySeparators path := by
  intro hmem
  obtain ⟨c, -, heq⟩ := List.mem_map.1 hmem
  split at heq
  · cases heq
  · next hc => exact hc heq

theorem unifySeparators_of_not_mem {path : List Char} (h : '\\' ∉ path) :
    unifySeparators path = path := by
  refine (List.map_congr_left fun c hc => if_neg ?_).trans (List.map_id path)
  rintro rfl
  exact h hc

/-- A normal form depends on what is left between the ends of the path. -/
theorem normalizeChars_congr {path other : List Char}
    (h : dropEnds '/' (unifySeparators path) = dropEnds '/' (unifySeparators other)) :
    normalizeChars path = normalizeChars other := by
  rw [normalizeChars, h, ← normalizeChars]

theorem isEnclosed_normalizeChars (path : List Char) : IsEnclosed (normalizeChars path) := by
  rw [normalizeChars]
  split
  · exact .inl rfl
  · exact .inr ⟨_, rfl⟩

theorem not_mem_normalizeChars (path : List Char) : '\\' ∉ normalizeChars path := by
  have hinner : '\\' ∉ dropEnds '/' (unifySeparators path) :=
    fun hmem => not_mem_unifySeparators path (mem_of_mem_dropEnds hmem)
  rw [normalizeChars]
  split
  · decide
  · rw [List.mem_append, List.mem_cons, List.mem_singleton, not_or, not_or]
    exact ⟨⟨by decide, hinner⟩, by decide⟩

/-- A normal form is in normal form. -/
theorem normalizeChars_normalizeChars (path : List Char) :
    normalizeChars (normalizeChars path) = normalizeChars path := by
  refine normalizeChars_congr ?_
  rw [unifySeparators_of_not_mem (not_mem_normalizeChars path), normalizeChars]
  split
  · next hempty =>
    rw [hempty]
    rfl
  · have hdrop := dropEnds_replicate_append '/' (dropEnds '/' (unifySeparators path)) 1 1
    rw [dropEnds_dropEnds] at hdrop
    exact hdrop

end FileTriage.Path
