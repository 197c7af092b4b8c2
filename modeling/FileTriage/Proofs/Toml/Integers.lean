/-
What the TOML reader gives fits into TOML.

The reader refuses an integer that has no place in 64 bits with a sign, wherever it stands, and the
statements of a text only move the values that have been read to their places.  So every integer
of a table that has been read has a place in TOML.
-/
import FileTriage.Proofs.Toml.RoundTrip

namespace FileTriage.Toml

/-! ## Attempts -/

/-- Whatever an attempt gives has a property. -/
def Gives {α : Type} (P : α → Prop) (o : Option α) : Prop := ∀ a, o = some a → P a

section Gives

variable {α β : Type} {P : α → Prop} {Q : β → Prop} {o : Option α}

theorem gives_none : Gives P none := by
  intro a h
  cases h

theorem gives_some {a : α} (h : P a) : Gives P (some a) := by
  rintro b ⟨⟩
  exact h

theorem Gives.bind {f : α → Option β} (h : Gives P o) (hf : ∀ a, P a → Gives Q (f a)) :
    Gives Q (o >>= f) := by
  intro b hb
  obtain ⟨a, ha, hb⟩ := Option.bind_eq_some_iff.1 hb
  exact hf a (h a ha) b hb

theorem gives_bind {f : α → Option β} (hf : ∀ a, Gives Q (f a)) : Gives Q (o >>= f) := by
  intro b hb
  obtain ⟨a, -, hb⟩ := Option.bind_eq_some_iff.1 hb
  exact hf a b hb

section Pairs

variable {γ : Type} {R : α × γ → Prop} {p : Option (α × γ)} {f : α × γ → Option β}

/-- What has been read and what is left of a text, by names of their own. -/
theorem Gives.bind_pair (h : Gives R p) (hf : ∀ a c, R (a, c) → Gives Q (f (a, c))) :
    Gives Q (p >>= f) :=
  h.bind fun q => hf q.1 q.2

theorem gives_bind_pair (hf : ∀ a c, Gives Q (f (a, c))) : Gives Q (p >>= f) :=
  gives_bind fun q => hf q.1 q.2

end Pairs

theorem Gives.map {f : α → β} (h : Gives P o) (hf : ∀ a, P a → Q (f a)) : Gives Q (o.map f) := by
  intro b hb
  obtain ⟨a, ha, rfl⟩ := Option.map_eq_some_iff.1 hb
  exact hf a (h a ha)

theorem gives_map {f : α → β} (hf : ∀ a, Q (f a)) : Gives Q (o.map f) := by
  intro b hb
  obtain ⟨a, -, rfl⟩ := Option.map_eq_some_iff.1 hb
  exact hf a

theorem gives_foldlM {σ : Type} {S : σ → Prop} {step : σ → α → Option σ}
    (hstep : ∀ s a, S s → P a → Gives S (step s a)) {items : List α} (hitems : ∀ a ∈ items, P a)
    {s : σ} (hs : S s) : Gives S (items.foldlM step s) := by
  induction items generalizing s with
  | nil => exact gives_some hs
  | cons a items ih =>
    rw [List.foldlM_cons]
    have ha := hstep s a hs (hitems a List.mem_cons_self)
    exact ha.bind fun s' hs' => ih (fun b hb => hitems b (List.mem_cons_of_mem _ hb)) hs'

end Gives

/-- What has been read fits, whatever is left of the text. -/
def ReadFits (p : Value × List Char) : Prop := Fits p.1

/-! ## Numbers -/

theorem gives_realValue (negative : Bool) (whole fraction : List Char) (exponent : Int)
    (literal : String) : Gives Fits (realValue negative whole fraction exponent literal) := by
  rw [realValue]
  split
  · exact gives_none
  · exact gives_some trivial

/-- An integer without a place is refused. -/
theorem gives_int (i : Int) (rest : List Char) :
    Gives ReadFits (if isInteger i then some (.int i, rest) else none) := by
  split
  · next hfit => exact gives_some hfit
  · exact gives_none

theorem gives_readDecimal (negative : Bool) (start text : List Char) :
    Gives ReadFits (readDecimal negative start text) := by
  have hreal (whole fraction : List Char) (exponent : Int) (rest : List Char) :
      Gives ReadFits ((realValue negative whole fraction exponent (taken start rest)).map
        (·, rest)) :=
    (gives_realValue negative whole fraction exponent _).map fun v hv => hv
  rw [readDecimal]
  refine gives_bind_pair fun whole rest => ?_
  dsimp only
  split
  · refine gives_bind_pair fun fraction rest => ?_
    dsimp only
    split
    · exact gives_bind_pair fun exponent rest => hreal _ _ _ _
    · exact gives_bind_pair fun exponent rest => hreal _ _ _ _
    · exact gives_bind_pair fun exponent rest => hreal _ _ _ _
  · exact gives_bind_pair fun exponent rest => hreal _ _ _ _
  · exact gives_bind_pair fun exponent rest => hreal _ _ _ _
  · exact gives_int _ _

theorem gives_readBased (base : Nat) (text : List Char) : Gives ReadFits (readBased base text) := by
  rw [readBased]
  exact gives_bind_pair fun digits rest => gives_int _ _

theorem gives_readDate (year : Nat) (start text : List Char) :
    Gives ReadFits (readDate year start text) := by
  rw [readDate]
  refine gives_bind_pair fun month rest => ?_
  dsimp only
  split
  · refine gives_bind_pair fun day rest => ?_
    dsimp only
    split
    · exact gives_none
    · split
      · exact gives_some trivial
      · refine gives_bind fun rest => ?_
        exact gives_bind fun rest => gives_some trivial
  · exact gives_none

theorem gives_readNumeric (text : List Char) : Gives ReadFits (readNumeric text) := by
  rw [readNumeric]
  split
  · exact gives_readDate _ _ _
  · split
    · exact gives_map fun rest => trivial
    · -- only decimal numbers and those in a base are integers
      extract_lets signed
      have hsigned (negative : Bool) (rest : List Char) : Gives ReadFits (signed negative rest) := by
        unfold signed
        split
        · exact gives_some trivial
        · exact gives_some trivial
        · exact gives_readDecimal _ _ _
      split
      · exact gives_readBased 16 _
      · exact gives_readBased 8 _
      · exact gives_readBased 2 _
      · exact hsigned true _
      · exact hsigned false _
      · exact gives_readDecimal _ _ _

/-! ## Tables -/

theorem fits_list_iff {items : List Value} : Fits (.list items) ↔ ∀ v ∈ items, Fits v := by
  rw [Fits, itemsFit_iff]

theorem fits_table_iff {fields : List (String × Value)} :
    Fits (.table fields) ↔ ∀ f ∈ fields, Fits f.2 := by
  rw [Fits, fieldsFit_iff]

/-- All integers in what stands under the keys of a table have a place in TOML. -/
def NodesFit (fields : Fields) : Prop := ∀ f ∈ fields, Fits f.2.toValue

theorem fits_fieldValues_iff {fields : Fields} :
    Fits (.table (fieldValues fields)) ↔ NodesFit fields := by
  rw [Fits]
  induction fields with
  | nil => simp [fieldValues, FieldsFit, NodesFit]
  | cons f fields ih =>
    rw [fieldValues, FieldsFit, ih, NodesFit, NodesFit, List.forall_mem_cons]

theorem fits_toValue_table_iff {origin : Origin} {fields : Fields} :
    Fits (Node.table origin fields).toValue ↔ NodesFit fields := by
  rw [Node.toValue, fits_fieldValues_iff]

theorem fits_toValue_tables_iff {elements : List Fields} :
    Fits (Node.tables elements).toValue ↔ ∀ fields ∈ elements, NodesFit fields := by
  rw [Node.toValue, fits_list_iff, elementValues_map, List.forall_mem_map]
  exact forall₂_congr fun fields _ => fits_fieldValues_iff

section Fields

variable {fields : Fields} {key : String} {node : Node}

theorem nodesFit_nil : NodesFit [] := by simp [NodesFit]

theorem NodesFit.append (h : NodesFit fields) (hnode : Fits node.toValue) :
    NodesFit (fields ++ [(key, node)]) := by
  intro f hf
  rcases List.mem_append.1 hf with hf | hf
  · exact h f hf
  · rw [List.mem_singleton.1 hf]
    exact hnode

theorem NodesFit.replaceField (h : NodesFit fields) (hnode : Fits node.toValue) :
    NodesFit (replaceField key node fields) := by
  intro f hf
  obtain ⟨g, hg, rfl⟩ := List.mem_map.1 hf
  split
  · exact hnode
  · exact h g hg

theorem NodesFit.field? (h : NodesFit fields) (hnode : field? key fields = some node) :
    Fits node.toValue := by
  obtain ⟨f, hf, rfl⟩ := Option.map_eq_some_iff.1 hnode
  exact h f (List.mem_of_find?_eq_some hf)

/-- A change at the end of a path leaves a table that fits, if it does so to the table there. -/
theorem gives_changeAt {made : Origin} {change : Origin → Fields → Option Fields}
    (hchange : ∀ origin fields, NodesFit fields → Gives NodesFit (change origin fields))
    (path : List String) (origin : Origin) (h : NodesFit fields) :
    Gives NodesFit (changeAt made change path origin fields) := by
  induction path generalizing origin fields with
  | nil => exact hchange origin fields h
  | cons key path ih =>
    rw [changeAt]
    split
    · refine (ih made nodesFit_nil).bind fun inner hinner => ?_
      exact gives_some (h.append (fits_toValue_table_iff.2 hinner))
    · exact gives_none
    · next inner hfield =>
      split
      · exact gives_none
      · refine (ih _ (fits_toValue_table_iff.1 (h.field? hfield))).bind fun inner hinner => ?_
        exact gives_some (h.replaceField (fits_toValue_table_iff.2 hinner))
    · next elements hfield =>
      have helements := fits_toValue_tables_iff.1 (h.field? hfield)
      split
      · exact gives_none
      · next last before hreverse =>
        -- only the last table of the list changes
        have hmem (fields : Fields) : fields ∈ elements ↔ fields ∈ last :: before := by
          rw [← hreverse, List.mem_reverse]
        have hlast : NodesFit last := helements last ((hmem last).2 List.mem_cons_self)
        refine (ih _ hlast).bind fun changed hchanged => ?_
        refine gives_some (h.replaceField (fits_toValue_tables_iff.2 ?_))
        intro fields hfields
        rcases List.mem_cons.1 (List.mem_reverse.1 hfields) with rfl | hbefore
        · exact hchanged
        · exact helements fields ((hmem fields).2 (List.mem_cons_of_mem _ hbefore))

theorem gives_addPair (path : List String) {v : Value} (hv : Fits v) (origin : Origin)
    (h : NodesFit fields) : Gives NodesFit (addPair path v origin fields) := by
  rw [addPair]
  split
  · exact gives_none
  · refine gives_changeAt (fun origin fields hfields => ?_) _ origin h
    split
    · exact gives_none
    split
    · exact gives_none
    · exact gives_some (hfields.append (by rwa [Node.toValue]))

theorem gives_openTable (name : String) (origin : Origin) (h : NodesFit fields) :
    Gives NodesFit (openTable name origin fields) := by
  rw [openTable]
  split
  · exact gives_some (h.append (fits_toValue_table_iff.2 nodesFit_nil))
  · next inner hfield =>
    -- the table that a longer header has named goes to the end, with all that is in it
    have hrest : NodesFit (fields.filter fun f => f.1 ≠ name) := fun f hf =>
      h f (List.mem_filter.1 hf).1
    exact gives_some (hrest.append (fits_toValue_table_iff.2 (fits_toValue_table_iff.1 (h.field? hfield))))
  · exact gives_none

theorem gives_openElement (name : String) (origin : Origin) (h : NodesFit fields) :
    Gives NodesFit (openElement name origin fields) := by
  have hnew : ∀ elements : List Fields, (∀ fields ∈ elements, NodesFit fields) →
      Fits (Node.tables (elements ++ [[]])).toValue := by
    intro elements helements
    refine fits_toValue_tables_iff.2 fun fields hfields => ?_
    rcases List.mem_append.1 hfields with hfields | hfields
    · exact helements fields hfields
    · rw [List.mem_singleton.1 hfields]
      exact nodesFit_nil
  rw [openElement]
  split
  · exact gives_some (h.append (hnew [] (by simp)))
  · next elements hfield =>
    exact gives_some (h.replaceField (hnew elements (fits_toValue_tables_iff.1 (h.field? hfield))))
  · exact gives_none

end Fields

/-- The integers in the value of a statement have a place in TOML. -/
def Statement.ValueFits : Statement → Prop
  | .pair _ v => Fits v
  | _ => True

theorem gives_add {d : Draft} {statement : Statement} (h : NodesFit d.fields)
    (hvalue : statement.ValueFits) : Gives (fun d => NodesFit d.fields) (d.add statement) := by
  cases statement with
  | pair key v =>
    refine (gives_changeAt (fun origin fields => gives_addPair key hvalue origin) d.path .header
      h).bind fun fields hfields => ?_
    exact gives_some hfields
  | header key =>
    rw [Draft.add]
    split
    · exact gives_none
    · refine (gives_changeAt (fun origin fields => gives_openTable _ origin) _ .header
        h).bind fun fields hfields => ?_
      exact gives_some hfields
  | element key =>
    rw [Draft.add]
    split
    · exact gives_none
    · refine (gives_changeAt (fun origin fields => gives_openElement _ origin) _ .header
        h).bind fun fields hfields => ?_
      exact gives_some hfields

theorem gives_assemble {statements : List Statement} (h : ∀ s ∈ statements, s.ValueFits) :
    Gives Fits (assemble statements) := by
  have hdraft := gives_foldlM (fun d s => gives_add) h (s := ({} : Draft)) nodesFit_nil
  refine hdraft.bind fun d hd => ?_
  exact gives_some (fits_fieldValues_iff.2 hd)

theorem gives_inlineTable {pairs : List (List String × Value)} (h : ∀ p ∈ pairs, Fits p.2) :
    Gives Fits (inlineTable pairs) := by
  have hfields := gives_foldlM (fun fields (p : List String × Value) hfields hp =>
    gives_addPair p.1 hp .header hfields) h nodesFit_nil
  refine hfields.bind fun fields hfields => ?_
  exact gives_some (fits_fieldValues_iff.2 hfields)

/-! ## Values -/

theorem gives_readWord (word : String) {v : Value} (h : Fits v) (text : List Char) :
    Gives ReadFits (readWord word v text) := by
  rw [readWord]
  split
  · exact gives_some h
  · exact gives_none

/-- What has been read of a list fits. -/
def ReadItemsFit (p : List Value × List Char) : Prop := ∀ v ∈ p.1, Fits v

/-- What has been read of a table in braces fits. -/
def ReadPairsFit (p : List (List String × Value) × List Char) : Prop := ∀ q ∈ p.1, Fits q.2

/-- Whatever fuel there is, what is read fits: by induction on the fuel, since a value, the items
of a list and the pairs of a table are read with one less than what they are in. -/
theorem gives_readValue (fuel : Nat) :
    (∀ depth text, Gives ReadFits (readValue fuel depth text)) ∧
    (∀ depth text, Gives ReadItemsFit (readItems fuel depth text)) ∧
    ∀ depth text, Gives ReadPairsFit (readPairs fuel depth text) := by
  induction fuel with
  | zero =>
    refine ⟨fun depth text => ?_, fun depth text => ?_, fun depth text => ?_⟩
    · rw [readValue]; exact gives_none
    · rw [readItems]; exact gives_none
    · rw [readPairs]; exact gives_none
  | succ fuel ih =>
    obtain ⟨hvalue, hitems, hpairs⟩ := ih
    refine ⟨fun depth text => ?_, fun depth text => ?_, fun depth text => ?_⟩
    · rw [readValue.eq_def]
      dsimp only
      split
      · exact gives_map fun p => trivial
      · exact gives_map fun p => trivial
      · split
        · exact gives_none
        · exact (hitems _ _).map fun p hp => fits_list_iff.2 hp
      · split
        · exact gives_none
        · split
          · exact gives_some trivial
          · refine (hpairs _ _).bind_pair fun pairs rest hp => ?_
            refine (gives_inlineTable hp).bind fun v hv => ?_
            exact gives_some hv
      · exact gives_readWord "true" (v := .bool true) trivial _
      · exact gives_readWord "false" (v := .bool false) trivial _
      · exact gives_readWord "inf" (v := .real "inf") trivial _
      · exact gives_readWord "nan" (v := .real "nan") trivial _
      · exact gives_readNumeric _
    · rw [readItems]
      refine gives_bind fun text => ?_
      dsimp only
      split
      · exact gives_some (by simp [ReadItemsFit])
      · refine (hvalue _ _).bind_pair fun v rest hv => ?_
        refine gives_bind fun rest => ?_
        dsimp only
        split
        · refine (hitems _ _).bind_pair fun items rest hitems => ?_
          exact gives_some (List.forall_mem_cons.2 ⟨hv, hitems⟩)
        · exact gives_some (List.forall_mem_cons.2 ⟨hv, by simp⟩)
        · exact gives_none
    · rw [readPairs]
      refine gives_bind_pair fun key rest => ?_
      dsimp only
      split
      · refine (hvalue _ _).bind_pair fun v rest hv => ?_
        dsimp only
        split
        · refine (hpairs _ _).bind_pair fun pairs rest hpairs => ?_
          exact gives_some (List.forall_mem_cons.2 ⟨hv, hpairs⟩)
        · exact gives_some (List.forall_mem_cons.2 ⟨hv, by simp⟩)
        · exact gives_none
      · exact gives_none

/-! ## Texts -/

/-- The value of the statement that has been read fits. -/
def ReadStatementFits (p : Statement × List Char) : Prop := p.1.ValueFits

theorem gives_readHeader (text : List Char) : Gives ReadStatementFits (readHeader text) := by
  rw [readHeader.eq_def]
  split
  · refine gives_bind_pair fun key rest => ?_
    dsimp only
    split
    · exact gives_some trivial
    · exact gives_none
  · refine gives_bind_pair fun key rest => ?_
    dsimp only
    split
    · exact gives_some trivial
    · exact gives_none

theorem gives_readPair (text : List Char) : Gives ReadStatementFits (readPair text) := by
  rw [readPair]
  refine gives_bind_pair fun key rest => ?_
  dsimp only
  split
  · refine ((gives_readValue _).1 _ _).bind_pair fun v rest hv => ?_
    exact gives_some hv
  · exact gives_none

theorem gives_readStatements (fuel : Nat) (text : List Char) :
    Gives (fun statements => ∀ s ∈ statements, s.ValueFits) (readStatements fuel text) := by
  induction fuel generalizing text with
  | zero => exact gives_none
  | succ fuel ih =>
    rw [readStatements.eq_def]
    dsimp only
    split
    · exact gives_some (by simp)
    · exact gives_bind_pair fun _ rest => ih rest
    · exact ih _
    · exact ih _
    · -- the statements behind a header or a pair are read in the same way
      have hrest (p : Statement × List Char) (h : ReadStatementFits p) :
          Gives (fun statements => ∀ s ∈ statements, s.ValueFits) (do
            let line ← readLineEnd p.2
            let statements ← readStatements fuel line.2
            some (p.1 :: statements)) := by
        refine gives_bind fun line => ?_
        refine (ih line.2).bind fun statements hstatements => ?_
        exact gives_some (List.forall_mem_cons.2 ⟨h, hstatements⟩)
      split
      · exact (gives_readHeader _).bind hrest
      · exact (gives_readPair _).bind hrest

/-- A text that is TOML gives a table of which all integers have a place in TOML. -/
theorem fits_of_read {text : String} {v : Value} (h : read text = some v) : Fits v := by
  obtain ⟨statements, hstatements, hassemble⟩ := Option.bind_eq_some_iff.1 h
  exact gives_assemble (gives_readStatements _ _ statements hstatements) v hassemble

end FileTriage.Toml
