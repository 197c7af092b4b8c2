/-
Reading the same items in another order.

Two readers are alike if both refuse, or both accept and their results are related.  Being alike goes
through every way in which readers are put together.  A record with a list in one of its fields is
read alike when the items of the list change places, since no other field looks at the slot of the
draft that the list fills.
-/
import FileTriage.Proofs.Data.Decoding
import Mathlib.Data.List.Forall2

namespace FileTriage

/-! ## Two readers -/

section Alike

variable {ε ε' α β γ δ : Type}

/-- Both refuse, or both accept and what they give is related. -/
inductive Alike (R : α → β → Prop) : Except ε α → Except ε' β → Prop
  | refused (e : ε) (e' : ε') : Alike R (.error e) (.error e')
  | accepted {a : α} {b : β} : R a b → Alike R (.ok a) (.ok b)

namespace Alike

variable {R : α → β → Prop} {S : γ → δ → Prop} {x : Except ε α} {y : Except ε' β}

theorem mono {R' : α → β → Prop} (h : Alike R x y) (himp : ∀ a b, R a b → R' a b) :
    Alike R' x y := by
  cases h with
  | refused e e' => exact .refused e e'
  | accepted h => exact .accepted (himp _ _ h)

theorem bind {f : α → Except ε γ} {g : β → Except ε' δ} (h : Alike R x y)
    (hfg : ∀ a b, R a b → Alike S (f a) (g b)) : Alike S (x >>= f) (y >>= g) := by
  cases h with
  | refused e e' => exact .refused e e'
  | accepted h => exact hfg _ _ h

theorem map {f : α → γ} {g : β → δ} (h : Alike R x y) (hfg : ∀ a b, R a b → S (f a) (g b)) :
    Alike S (x.map f) (y.map g) := by
  cases h with
  | refused e e' => exact .refused e e'
  | accepted h => exact .accepted (hfg _ _ h)

theorem refl {R : α → α → Prop} (hR : ∀ a, R a a) (x : Except ε α) : Alike R x x := by
  cases x with
  | error e => exact .refused e e
  | ok a => exact .accepted (hR a)

theorem same (x : Except ε α) : Alike Eq x x := refl (fun _ => rfl) x

/-- One reader may go on in two ways. -/
theorem bind_same (x : Except ε α) {f : α → Except ε γ} {g : α → Except ε δ}
    (h : ∀ a, Alike S (f a) (g a)) : Alike S (x >>= f) (x >>= g) := by
  refine (same x).bind ?_
  rintro a _ rfl
  exact h a

theorem trans {R : α → α → Prop} (hR : ∀ a b c, R a b → R b c → R a c) {x y z : Except ε α}
    (hxy : Alike R x y) (hyz : Alike R y z) : Alike R x z := by
  cases hxy with
  | refused e e' =>
    cases hyz with
    | refused _ e'' => exact .refused e e''
  | accepted hab =>
    cases hyz with
    | accepted hbc => exact .accepted (hR _ _ _ hab hbc)

/-- Readers that accept with the same results are alike. -/
theorem of_eq_ok_iff {x : Except ε α} {y : Except ε' α} (h : ∀ a, x = .ok a ↔ y = .ok a) :
    Alike Eq x y := by
  cases x with
  | error e =>
    cases y with
    | error e' => exact .refused e e'
    | ok a => cases (h a).2 rfl
  | ok a =>
    rw [(h a).1 rfl]
    exact .accepted rfl

/-- Both refuse, or both accept with one result. -/
theorem eq_cases {x : Except ε α} {y : Except ε' α} (h : Alike Eq x y) :
    ((∃ e, x = .error e) ∧ ∃ e, y = .error e) ∨ ∃ a, x = .ok a ∧ y = .ok a := by
  cases h with
  | refused e e' => exact .inl ⟨⟨e, rfl⟩, e', rfl⟩
  | accepted h =>
    subst h
    exact .inr ⟨_, rfl, rfl⟩

end Alike

/-- The items of a list are read in whichever order they come. -/
theorem alike_mapM_of_perm (f : α → Except ε β) {l l' : List α} (h : l.Perm l') :
    Alike List.Perm (l.mapM f) (l'.mapM f) := by
  induction h with
  | nil => exact .accepted .nil
  | cons a _ ih =>
    rw [List.mapM_cons, List.mapM_cons]
    refine .bind_same (f a) fun b => ?_
    refine ih.bind ?_
    intro bs bs' hbs
    exact .accepted (hbs.cons b)
  | swap a b l =>
    simp only [List.mapM_cons]
    cases f a with
    | error e =>
      cases f b with
      | error e' => exact .refused e' e
      | ok b => exact .refused e e
    | ok a =>
      cases f b with
      | error e => exact .refused e e
      | ok b =>
        cases l.mapM f with
        | error e => exact .refused e e
        | ok bs => exact .accepted (.swap a b bs)
  | trans _ _ ih₁ ih₂ => exact ih₁.trans (fun _ _ _ h₁ h₂ => h₁.trans h₂) ih₂

/-- Items that are read alike one by one are read alike together. -/
theorem alike_mapM_of_forall₂ {R : α → α → Prop} {f : α → Except ε β}
    (hread : ∀ a b, R a b → Alike Eq (f a) (f b)) {l l' : List α} (h : List.Forall₂ R l l') :
    Alike Eq (l.mapM f) (l'.mapM f) := by
  induction h with
  | nil => exact .accepted rfl
  | cons hab _ ih =>
    rw [List.mapM_cons, List.mapM_cons]
    refine (hread _ _ hab).bind ?_
    rintro b b' rfl
    refine ih.bind ?_
    rintro bs bs' rfl
    exact .accepted rfl

/-- Loops that keep a relation between their states are alike. -/
theorem alike_foldlM {σ τ : Type} {R : α → β → Prop} {I : σ → τ → Prop} {f : σ → α → Except ε σ}
    {g : τ → β → Except ε' τ}
    (hstep : ∀ s t a b, I s t → R a b → Alike I (f s a) (g t b)) {l : List α} {l' : List β}
    (h : List.Forall₂ R l l') {s : σ} {t : τ} (hst : I s t) :
    Alike I (l.foldlM f s) (l'.foldlM g t) := by
  induction h generalizing s t with
  | nil => exact .accepted hst
  | cons hab _ ih =>
    rw [List.foldlM_cons, List.foldlM_cons]
    refine (hstep _ _ _ _ hst hab).bind ?_
    intro s' t' hst'
    exact ih hst'

end Alike

/-! ## Rearranged values -/

namespace Value

/-- The items of a list in another order, each with `R` to the one that it was. -/
inductive Rearranged (R : Value → Value → Prop) : Value → Value → Prop
  | list {items others items' : List Value} : items.Perm others → List.Forall₂ R others items' →
      Rearranged R (.list items) (.list items')

/-- A field as it was, or the field `name` with its list rearranged. -/
inductive FieldRearranged (name : String) (R : Value → Value → Prop) :
    String × Value → String × Value → Prop
  | same (f : String × Value) : FieldRearranged name R f f
  | own {v v' : Value} : Rearranged R v v' → FieldRearranged name R (name, v) (name, v')

/-- A record as it was, or with the list of its field `name` rearranged.  A record that is written
as a list has its fields in the order of `names`. -/
inductive RecordRearranged (names : List String) (name : String) (R : Value → Value → Prop) :
    Value → Value → Prop
  | same (v : Value) : RecordRearranged names name R v v
  | table {fields fields' : List (String × Value)} :
      List.Forall₂ (FieldRearranged name R) fields fields' →
        RecordRearranged names name R (.table fields) (.table fields')
  | list {items items' : List Value} : items.length = items'.length →
      List.Forall₂ (FieldRearranged name R) (names.zip items) (names.zip items') →
        RecordRearranged names name R (.list items) (.list items')

variable {R : Value → Value → Prop} {σ α : Type}

/-- A rearranged list is read to the same results in another order. -/
theorem Rearranged.alike_asList {read : Value → Except DataFault α}
    (hread : ∀ w w', R w w' → Alike Eq (read w) (read w')) {v v' : Value} (h : Rearranged R v v') :
    Alike List.Perm (v.asList read) (v'.asList read) := by
  obtain ⟨hperm, hothers⟩ := h
  refine (alike_mapM_of_perm read hperm).trans (fun _ _ _ h₁ h₂ => h₁.trans h₂) ?_
  refine (alike_mapM_of_forall₂ hread hothers).mono ?_
  rintro l l' rfl
  exact .refl l

/-! ## Records with a list -/

/-- The field `name` of a record is a list, which fills a slot of the draft; no other field looks at
the slot.  `put` puts something into the slot. -/
structure ListField (format : RecordFormat σ) (name : String) (read : Value → Except DataFault α)
    (put : Option (List α) → σ → σ) : Prop where
  mem : name ∈ format.names
  own : ∀ v slot d, format.set name v (put slot d) = (fill slot (v.asList read)).map (put · d)
  other : ∀ n v slot d, n ≠ name → format.set n v (put slot d) = (format.set n v d).map (put slot)

/-- Drafts that differ in the order of a list only. -/
inductive SlotAlike (put : Option (List α) → σ → σ) : σ → σ → Prop
  | mk (d : σ) {slot slot' : Option (List α)} :
      Option.Rel List.Perm slot slot' → SlotAlike put (put slot d) (put slot' d)

theorem alike_fill {slot slot' : Option (List α)} (hslot : Option.Rel List.Perm slot slot')
    {x y : Except DataFault (List α)} (h : Alike List.Perm x y) :
    Alike (Option.Rel List.Perm) (fill slot x) (fill slot' y) := by
  cases hslot with
  | some _ => exact .refused _ _
  | none => exact h.map fun _ _ hperm => .some hperm

namespace ListField

variable {format : RecordFormat σ} {name : String} {read : Value → Except DataFault α}
  {put : Option (List α) → σ → σ}

theorem alike_own (h : ListField format name read put) {v v' : Value}
    (hv : Alike List.Perm (v.asList read) (v'.asList read)) {d d' : σ} (hd : SlotAlike put d d') :
    Alike (SlotAlike put) (format.set name v d) (format.set name v' d') := by
  obtain ⟨base, hslot⟩ := hd
  rw [h.own, h.own]
  exact (alike_fill hslot hv).map fun _ _ hrel => .mk base hrel

theorem alike_set (h : ListField format name read put)
    (hread : ∀ w w', R w w' → Alike Eq (read w) (read w')) {f f' : String × Value}
    (hf : FieldRearranged name R f f') {d d' : σ} (hd : SlotAlike put d d') :
    Alike (SlotAlike put) (format.set f.1 f.2 d) (format.set f'.1 f'.2 d') := by
  cases hf with
  | same f =>
    by_cases hname : f.1 = name
    · rw [hname]
      exact h.alike_own (.refl (fun l => .refl l) _) hd
    · obtain ⟨base, hslot⟩ := hd
      rw [h.other _ _ _ _ hname, h.other _ _ _ _ hname]
      refine (Alike.same (format.set f.1 f.2 base)).map ?_
      rintro d _ rfl
      exact .mk d hslot
  | own hv => exact h.alike_own (hv.alike_asList hread) hd

theorem alike_addField (h : ListField format name read put)
    (hread : ∀ w w', R w w' → Alike Eq (read w) (read w')) {f f' : String × Value}
    (hf : FieldRearranged name R f f') {d d' : σ} (hd : SlotAlike put d d') :
    Alike (SlotAlike put) (format.addField d f) (format.addField d' f') := by
  have hset := h.alike_set hread hf hd
  cases hf with
  | same f =>
    rw [RecordFormat.addField, RecordFormat.addField]
    split
    · exact .refused _ _
    split
    · exact hset
    split
    · exact .accepted hd
    · exact .refused _ _
  | own hv =>
    -- both are lists, so their name can be represented, and the record has it
    obtain ⟨-, -⟩ := hv
    have hmem : format.names.contains name = true := List.contains_iff_mem.2 h.mem
    have hnameless (items : List Value) : ¬ (list items).isNameless = true := Bool.false_ne_true
    rw [RecordFormat.addField, RecordFormat.addField, if_neg (hnameless _), if_neg (hnameless _),
      if_pos hmem, if_pos hmem]
    exact hset

/-- A record is collected alike when the list of one of its fields is rearranged. -/
theorem alike_collect (h : ListField format name read put)
    (hread : ∀ w w', R w w' → Alike Eq (read w) (read w')) {v v' : Value}
    (hv : RecordRearranged format.names name R v v') (surplus : Except DataFault Unit) {d : σ}
    (hd : SlotAlike put d d) :
    Alike (fun c c' => SlotAlike put c.draft c'.draft ∧ c.missing = c'.missing)
      (collect format surplus d v) (collect format surplus d v') := by
  have htable {fields fields' : List (String × Value)}
      (hfields : List.Forall₂ (FieldRearranged name R) fields fields') :
      Alike (fun c c' => SlotAlike put c.draft c'.draft ∧ c.missing = c'.missing)
        (collect format surplus d (table fields)) (collect format surplus d (table fields')) := by
    have hfold := alike_foldlM (I := SlotAlike put) (f := format.addField) (g := format.addField)
      (fun s t f f' hst hf => h.alike_addField hread hf hst) hfields hd
    refine hfold.bind ?_
    intro s t hst
    exact .accepted ⟨hst, rfl⟩
  have hlist {items items' : List Value} (hlength : items.length = items'.length)
      (hitems : List.Forall₂ (FieldRearranged name R) (format.names.zip items)
        (format.names.zip items')) :
      Alike (fun c c' => SlotAlike put c.draft c'.draft ∧ c.missing = c'.missing)
        (collect format surplus d (list items)) (collect format surplus d (list items')) := by
    have hfold := alike_foldlM (I := SlotAlike put) (f := fun d f => format.set f.1 f.2 d)
      (g := fun d f => format.set f.1 f.2 d)
      (fun s t f f' hst hf => h.alike_set hread hf hst) hitems hd
    refine hfold.bind ?_
    intro s t hst
    rw [hlength]
    dsimp only
    split
    · exact .bind_same surplus fun _ => .accepted ⟨hst, rfl⟩
    · exact .accepted ⟨hst, rfl⟩
  cases hv with
  | table hfields => exact htable hfields
  | list hlength hitems => exact hlist hlength hitems
  | same v =>
    cases v with
    | table fields => exact htable (List.forall₂_same.2 fun f _ => .same f)
    | list items => exact hlist rfl (List.forall₂_same.2 fun f _ => .same f)
    | moment t =>
      refine (h.alike_addField hread (.same (momentField, text t)) hd).bind ?_
      intro s t hst
      exact .accepted ⟨hst, rfl⟩
    | null => exact .refused _ _
    | bool => exact .refused _ _
    | int => exact .refused _ _
    | real => exact .refused _ _
    | text => exact .refused _ _
    | unreadable => exact .refused _ _

end ListField

end Value

end FileTriage
