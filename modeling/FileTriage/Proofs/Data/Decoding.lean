/-
Values are taken apart as they were put together.

A scalar gives what it was made of, and a record gives its fields one after the other: each field
changes the draft once, so a record whose fields are all there ends with the draft that has them.
The other way round, what has been taken out of a value comes from its parts, and what every field
keeps about a draft holds of the draft of the record.
-/
import FileTriage.Data.Decoding
import Mathlib.Data.List.Basic

namespace FileTriage.Value

/-! ## Scalars and lists -/

theorem asNat_nat {bound n : Nat} (h : n < bound) : (nat n).asNat bound = .ok n := by
  have hin : 0 ≤ (n : Int) ∧ (n : Int) < bound := by omega
  rw [nat, asNat, if_pos hin, Int.toNat_natCast]

theorem asWord32_nat (w : UInt32) : (nat w.toNat).asWord32 = .ok w := by
  have hlt : w.toNat < UInt32.size := w.toNat_lt
  rw [asWord32, asNat_nat hlt, Except.map, UInt32.ofNat_toNat]

theorem asWord64_nat (w : UInt64) : (nat w.toNat).asWord64 = .ok w := by
  have hlt : w.toNat < UInt64.size := w.toNat_lt
  rw [asWord64, asNat_nat hlt, Except.map, UInt64.ofNat_toNat]

/-- A list is read if its first item is and the others are. -/
theorem mapM_cons_of_ok {α β : Type} {read : β → Except DataFault α} {b : β} {rest : List β} {a : α}
    {items : List α} (h : read b = .ok a) (hrest : rest.mapM read = .ok items) :
    (b :: rest).mapM read = .ok (a :: items) := by
  rw [List.mapM_cons, h, hrest]
  rfl

/-- What has been written item by item is read item by item. -/
theorem mapM_map {α β : Type} {read : β → Except DataFault α} {write : α → β} {items : List α}
    (h : ∀ a ∈ items, read (write a) = .ok a) : (items.map write).mapM read = .ok items := by
  induction items with
  | nil => rfl
  | cons a items ih =>
    exact mapM_cons_of_ok (h a List.mem_cons_self) (ih fun b hb => h b (List.mem_cons_of_mem _ hb))

/-- A list of written items is read item by item. -/
theorem asList_map {α : Type} {read : Value → Except DataFault α} {write : α → Value}
    {items : List α} (h : ∀ a ∈ items, read (write a) = .ok a) :
    (list (items.map write)).asList read = .ok items :=
  mapM_map h

/-! ## Variants -/

section Variants

variable {α : Type} [DecidableEq α] {known : List (String × α)}

/-- The name of a variant stands for that variant, if no name stands for two. -/
theorem lookup_variantName (hnames : (known.map (·.1)).Nodup) {a : α} (ha : a ∈ known.map (·.2)) :
    known.lookup (variantName known a) = some a ∧ variantName known a ∈ known.map (·.1) := by
  induction known with
  | nil => cases ha
  | cons v rest ih =>
    obtain ⟨n, b⟩ := v
    obtain ⟨hn, hrest⟩ := List.nodup_cons.1 hnames
    by_cases hb : b = a
    · have hname : variantName ((n, b) :: rest) a = n := by
        rw [variantName, List.find?_cons_of_pos (by simpa using hb)]
      rw [hname]
      exact ⟨by rw [List.lookup_cons, beq_self_eq_true, hb], List.mem_cons_self⟩
    · have hname : variantName ((n, b) :: rest) a = variantName rest a := by
        rw [variantName, List.find?_cons_of_neg (by simpa using hb)]
        rfl
      have hin : a ∈ rest.map (·.2) := (List.mem_cons.1 ha).resolve_left fun h => hb h.symm
      obtain ⟨hlookup, hmem⟩ := ih hrest hin
      have hne : (variantName rest a == n) = false := by
        rw [beq_eq_false_iff_ne]
        rintro rfl
        exact hn hmem
      rw [hname]
      exact ⟨by rw [List.lookup_cons, hne, hlookup], List.mem_cons_of_mem _ hmem⟩

theorem variantOf_variantName (hnames : (known.map (·.1)).Nodup) {a : α}
    (ha : a ∈ known.map (·.2)) : variantOf known (variantName known a) = .ok a := by
  rw [variantOf, (lookup_variantName hnames ha).1]

theorem asVariant_variantName (isNothing : Value → Bool) (hnames : (known.map (·.1)).Nodup) {a : α}
    (ha : a ∈ known.map (·.2)) :
    asVariant isNothing known (text (variantName known a)) = .ok a := by
  rw [asVariant, variantOf_variantName hnames ha]

end Variants

/-! ## Records -/

section Records

variable {σ : Type} {names : List String} {set : String → Value → σ → Except DataFault σ}
  {surplus : Except DataFault Unit} {draft draft' : σ} {fields : List (String × Value)}

/-- A field of the record changes the draft as the record says. -/
theorem foldlM_addField_cons {name : String} {v : Value} (hname : names.contains name = true)
    (hv : v.isNameless = false) (hset : set name v draft = .ok draft') :
    ((name, v) :: fields).foldlM (RecordFormat.addField ⟨names, set⟩) draft =
      fields.foldlM (RecordFormat.addField ⟨names, set⟩) draft' := by
  have hadd : RecordFormat.addField ⟨names, set⟩ draft (name, v) = .ok draft' := by
    rw [RecordFormat.addField, hv, if_neg (by decide), if_pos hname]
    exact hset
  rw [List.foldlM_cons, hadd]
  rfl

/-- A table gives the draft that its fields have led to. -/
theorem collect_table (h : fields.foldlM (RecordFormat.addField ⟨names, set⟩) draft = .ok draft') :
    collect ⟨names, set⟩ surplus draft (table fields) = .ok ⟨draft', .missingField⟩ := by
  rw [collect, h]
  rfl

end Records

/-! ## What a reader has found -/

section Found

variable {ε α β : Type}

theorem bind_eq_ok_iff {x : Except ε α} {f : α → Except ε β} {b : β} :
    x >>= f = .ok b ↔ ∃ a, x = .ok a ∧ f a = .ok b := by
  cases x with
  | error e => simp [bind, Except.bind]
  | ok a => simp [bind, Except.bind]

theorem map_eq_ok_iff {x : Except ε α} {f : α → β} {b : β} :
    x.map f = .ok b ↔ ∃ a, x = .ok a ∧ f a = b := by
  cases x with
  | error e => simp [Except.map]
  | ok a => simp [Except.map]

theorem map_map {γ : Type} (x : Except ε α) (f : α → β) (g : β → γ) :
    (x.map f).map g = x.map fun a => g (f a) := by
  cases x with
  | error e => rfl
  | ok a => rfl

/-- Every result comes from an item. -/
theorem exists_of_mapM_eq_ok {read : α → Except ε β} {items : List α} {results : List β}
    (h : items.mapM read = .ok results) {b : β} (hb : b ∈ results) :
    ∃ a ∈ items, read a = .ok b := by
  induction items generalizing results with
  | nil =>
    cases h
    cases hb
  | cons a items ih =>
    rw [List.mapM_cons] at h
    obtain ⟨c, hc, h⟩ := bind_eq_ok_iff.1 h
    obtain ⟨rest, hrest, h⟩ := bind_eq_ok_iff.1 h
    cases h
    rcases List.mem_cons.1 hb with rfl | hb
    · exact ⟨a, List.mem_cons_self, hc⟩
    · obtain ⟨d, hd, hread⟩ := ih hrest hb
      exact ⟨d, List.mem_cons_of_mem _ hd, hread⟩

/-- What every step keeps, all of them keep. -/
theorem of_foldlM_eq_ok {P : α → Prop} {I : β → Prop} {step : β → α → Except ε β}
    (hstep : ∀ s a s', P a → I s → step s a = .ok s' → I s') {items : List α}
    (hitems : ∀ a ∈ items, P a) {s s' : β} (hs : I s) (h : items.foldlM step s = .ok s') : I s' := by
  induction items generalizing s with
  | nil =>
    cases h
    exact hs
  | cons a items ih =>
    rw [List.foldlM_cons] at h
    obtain ⟨s₁, hs₁, h⟩ := bind_eq_ok_iff.1 h
    exact ih (fun b hb => hitems b (List.mem_cons_of_mem _ hb))
      (hstep s a s₁ (hitems a List.mem_cons_self) hs hs₁) h

end Found

/-- A slot is filled with what has been read. -/
theorem fill_eq_ok_iff {α : Type} {slot slot' : Option α} {read : Except DataFault α} :
    fill slot read = .ok slot' ↔ slot = none ∧ ∃ a, read = .ok a ∧ slot' = some a := by
  cases slot with
  | none =>
    rw [fill, map_eq_ok_iff]
    simp [eq_comm]
  | some a => simp [fill]

/-- The parts of a value that the fields of a record are read from. -/
def parts : Value → List Value
  | table fields => fields.map (·.2)
  | list items => items
  | moment t => [text t]
  | _ => []

/-- What every field keeps about a draft, given something about the parts of the value, holds of
what the record gives. -/
theorem of_collect_eq_ok {σ : Type} {format : RecordFormat σ} {surplus : Except DataFault Unit}
    {P : Value → Prop} {I : σ → Prop}
    (hset : ∀ name v d d', P v → I d → format.set name v d = .ok d' → I d') {v : Value}
    (hparts : ∀ w ∈ v.parts, P w) {draft : σ} (hdraft : I draft) {c : Collected σ}
    (h : collect format surplus draft v = .ok c) : I c.draft := by
  have hadd : ∀ d (f : String × Value) d', P f.2 → I d → format.addField d f = .ok d' → I d' := by
    intro d f d' hf hd hadd
    rw [RecordFormat.addField] at hadd
    split at hadd
    · cases hadd
    split at hadd
    · exact hset _ _ _ _ hf hd hadd
    split at hadd
    · cases hadd
      exact hd
    · cases hadd
  cases v with
  | table fields =>
    obtain ⟨d, hd, h⟩ := bind_eq_ok_iff.1 h
    cases h
    exact of_foldlM_eq_ok hadd (fun f hf => hparts f.2 (List.mem_map_of_mem hf)) hdraft hd
  | list items =>
    obtain ⟨d, hd, h⟩ := bind_eq_ok_iff.1 h
    have hkept : I d := by
      refine of_foldlM_eq_ok (P := fun f : String × Value => P f.2)
        (fun d f d' => hset f.1 f.2 d d') ?_ hdraft hd
      intro f hf
      exact hparts f.2 (List.of_mem_zip hf).2
    -- whether there are items beyond the last field does not change the draft
    dsimp only at h
    split at h
    · obtain ⟨-, -, h⟩ := bind_eq_ok_iff.1 h
      cases h
      exact hkept
    · cases h
      exact hkept
  | moment t =>
    obtain ⟨d, hd, h⟩ := bind_eq_ok_iff.1 h
    cases h
    exact hadd _ _ _ (hparts _ List.mem_cons_self) hdraft hd
  | null => cases h
  | bool => cases h
  | int => cases h
  | real => cases h
  | text => cases h
  | unreadable => cases h

theorem isNameless_of_isWhole {v : Value} (h : v.isWhole = true) : v.isNameless = false := by
  cases v with
  | unreadable why => cases h
  | _ => rfl

end FileTriage.Value
