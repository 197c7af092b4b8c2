/-
A table that has been written is read back.

The writer puts the pairs of a table before the tables of its lists, and headers name a table by
its path.  So a table comes back as it was if its names are distinct, its pairs come before its
lists, and no path is longer than the reader allows; such tables are shaped.  A shaped table can be
written if its integers have a place in TOML.
-/
import FileTriage.Proofs.Toml.Assembly
import FileTriage.Proofs.Toml.Statements

namespace FileTriage.Toml

/-! ## Shaped tables -/

/-- Whether a value is written on the line of its key. -/
def isScalar : Value → Bool
  | .bool _ | .int _ | .text _ | .list [] => true
  | _ => false

/-- Tables with distinct names and with their pairs before their lists of tables, which are nested
no more than `depth` times. -/
inductive Shaped : Nat → List (String × Value) → Prop where
  | nil (depth : Nat) : Shaped depth []
  | pair {depth : Nat} {key : String} {v : Value} {rest : List (String × Value)}
      (hkey : ∀ f ∈ rest, f.1 ≠ key) (hv : isScalar v = true) (hrest : Shaped depth rest) :
      Shaped depth ((key, v) :: rest)
  | list {depth : Nat} {key : String} {tables : List (List (String × Value))}
      {rest : List (String × Value)} (hkey : ∀ f ∈ rest, f.1 ≠ key) (hne : tables ≠ [])
      (hlists : ∀ f ∈ rest, isScalar f.2 = false) (htables : ∀ t ∈ tables, Shaped depth t)
      (hrest : Shaped (depth + 1) rest) :
      Shaped (depth + 1) ((key, .list (tables.map .table)) :: rest)

/-! ## The statements of a table -/

/-- The pairs of a table. -/
def pairStatements (fields : List (String × Value)) : List Statement :=
  (fields.filter fun f => isScalar f.2).map fun f => .pair [f.1] f.2

mutual

/-- The statements of the lists of a table that stands at a path. -/
def listStatements (path : List String) : List (String × Value) → List Statement
  | [] => []
  | (key, .list (item :: items)) :: rest =>
    elementStatements (path ++ [key]) (item :: items) ++ listStatements path rest
  | _ :: rest => listStatements path rest

/-- The statements of the tables of a list, each with its header. -/
def elementStatements (path : List String) : List Value → List Statement
  | [] => []
  | .table fields :: rest =>
    (.element path :: (pairStatements fields ++ listStatements path fields)) ++
      elementStatements path rest
  | _ :: rest => elementStatements path rest

end

theorem listStatements_scalar (path : List String) (key : String) {v : Value}
    (hv : isScalar v = true) (rest : List (String × Value)) :
    listStatements path ((key, v) :: rest) = listStatements path rest := by
  rw [listStatements]
  rintro key' item items ⟨⟩
  cases hv

theorem listStatements_list (path : List String) (key : String)
    {tables : List (List (String × Value))} (hne : tables ≠ []) (rest : List (String × Value)) :
    listStatements path ((key, .list (tables.map .table)) :: rest) =
      elementStatements (path ++ [key]) (tables.map .table) ++ listStatements path rest := by
  cases tables with
  | nil => exact absurd rfl hne
  | cons table tables => rw [List.map_cons, listStatements]

theorem pairStatements_scalar (key : String) {v : Value} (hv : isScalar v = true)
    (rest : List (String × Value)) :
    pairStatements ((key, v) :: rest) = .pair [key] v :: pairStatements rest := by
  have hfilter : ((key, v) :: rest).filter (fun f => isScalar f.2) =
      (key, v) :: rest.filter (fun f => isScalar f.2) :=
    List.filter_cons_of_pos hv
  rw [pairStatements, hfilter, List.map_cons]
  rfl

theorem pairStatements_eq_nil {fields : List (String × Value)}
    (h : ∀ f ∈ fields, isScalar f.2 = false) : pairStatements fields = [] := by
  rw [pairStatements, List.map_eq_nil_iff, List.filter_eq_nil_iff]
  intro f hf
  simp [h f hf]

theorem pairStatements_list (key : String) {tables : List (List (String × Value))}
    (hne : tables ≠ []) (rest : List (String × Value)) :
    pairStatements ((key, .list (tables.map .table)) :: rest) = pairStatements rest := by
  cases tables with
  | nil => exact absurd rfl hne
  | cons table tables =>
    rw [pairStatements, List.filter_cons_of_neg (by simp [isScalar])]
    rfl

/-! ## Writing -/

theorem fieldTexts?_scalar (path key : String) {v : Value} (hv : isScalar v = true)
    (rest : List (String × Value)) :
    fieldTexts? path ((key, v) :: rest) = (do
      let text ← inlineText? v
      let (pairs, tables) ← fieldTexts? path rest
      some (keyText key ++ " = " ++ text ++ "\n" ++ pairs, tables)) := by
  rw [fieldTexts?]
  rintro item items rfl
  cases hv

theorem fieldTexts?_list (path key : String) {tables : List (List (String × Value))}
    (hne : tables ≠ []) (rest : List (String × Value)) :
    fieldTexts? path ((key, .list (tables.map .table)) :: rest) = (do
      let inner ← elementTexts? (path ++ keyText key) (tables.map .table)
      let (pairs, after) ← fieldTexts? path rest
      some (pairs, inner ++ after)) := by
  cases tables with
  | nil => exact absurd rfl hne
  | cons table tables => rw [List.map_cons, fieldTexts?]

/-- The text of the tables of a list spells their statements if the text of each of them does. -/
theorem spells_elementTexts? {path : List String} {key : String}
    {tables : List (List (String × Value))} (hpath : path.length + 1 < depthLimit)
    (htables : ∀ t ∈ tables, ∀ pairs lists,
      fieldTexts? (pathText (path ++ [key])) t = some (pairs, lists) →
        Spells pairs.toList (pairStatements t) ∧
          Spells lists.toList (listStatements (path ++ [key]) t))
    {text : String}
    (h : elementTexts? (pathText path ++ keyText key) (tables.map .table) = some text) :
    Spells text.toList (elementStatements (path ++ [key]) (tables.map .table)) := by
  induction tables generalizing text with
  | nil =>
    rw [List.map_nil, elementTexts?] at h
    cases h
    rw [List.map_nil, elementStatements]
    exact spells_nil
  | cons t tables ih =>
    rw [List.map_cons, elementTexts?, ← pathText_append] at h
    simp only [Option.bind_eq_bind, Option.bind_eq_some_iff] at h
    obtain ⟨⟨pairs, lists⟩, hfields, after, hafter, htext⟩ := h
    cases htext
    obtain ⟨hpairs, hlists⟩ := htables t List.mem_cons_self pairs lists hfields
    have hrest := ih (fun t ht => htables t (List.mem_cons_of_mem _ ht)) hafter
    have hheader := spells_element hpath key
    have hshape : ("\n[[" ++ (pathText path ++ keyText key) ++ "]]\n" ++ pairs ++ lists ++
        after).toList = ['\n'] ++ (("[[" ++ (pathText path ++ keyText key) ++ "]]\n").toList ++
          (pairs.toList ++ (lists.toList ++ after.toList))) := by
      simp
    rw [List.map_cons, elementStatements, hshape]
    have := spells_newline.append (hheader.append (hpairs.append (hlists.append hrest)))
    simpa using this

/-- The text of a shaped table spells its statements. -/
theorem Shaped.spells {depth : Nat} {fields : List (String × Value)} (hshape : Shaped depth fields)
    (path : List String) (hdepth : path.length + depth < depthLimit) {pairs lists : String}
    (h : fieldTexts? (pathText path) fields = some (pairs, lists)) :
    Spells pairs.toList (pairStatements fields) ∧
      Spells lists.toList (listStatements path fields) := by
  induction hshape generalizing path pairs lists with
  | nil depth =>
    rw [fieldTexts?] at h
    cases h
    rw [listStatements]
    exact ⟨spells_nil, spells_nil⟩
  | @pair depth key v rest hkey hv hrest ih =>
    rw [fieldTexts?_scalar _ _ hv] at h
    simp only [Option.bind_eq_bind, Option.bind_eq_some_iff] at h
    obtain ⟨text, htext, ⟨pairs', lists'⟩, hfields, heq⟩ := h
    cases heq
    obtain ⟨hpairs, hlists⟩ := ih path hdepth hfields
    rw [listStatements_scalar _ _ hv, pairStatements_scalar _ hv, String.toList_append]
    exact ⟨(spells_pair key htext).append hpairs, hlists⟩
  | @list depth key tables rest hkey hne hrestLists htables hrest ihtables ih =>
    rw [fieldTexts?_list _ _ hne] at h
    simp only [Option.bind_eq_bind, Option.bind_eq_some_iff] at h
    obtain ⟨inner, hinner, ⟨pairs', lists'⟩, hfields, heq⟩ := h
    cases heq
    obtain ⟨hpairs, hlists⟩ := ih path hdepth hfields
    -- the tables of the list stand one key deeper, where the bound on the depth still holds
    have helements := spells_elementTexts? (by omega) (fun t ht pairs lists hfields =>
      ihtables t ht _ (by rw [List.length_append, List.length_singleton]; omega) hfields) hinner
    rw [listStatements_list _ _ hne, pairStatements_list _ hne, String.toList_append]
    exact ⟨hpairs, helements.append hlists⟩

/-! ## Reading -/

mutual

/-- The nodes that stand for the fields of a table. -/
def nodesOf : List (String × Value) → Fields
  | [] => []
  | (key, .list (item :: items)) :: rest =>
    (key, .tables (elementsOf (item :: items))) :: nodesOf rest
  | (key, v) :: rest => (key, .value v) :: nodesOf rest

/-- The nodes that stand for the tables of a list. -/
def elementsOf : List Value → List Fields
  | [] => []
  | .table fields :: rest => nodesOf fields :: elementsOf rest
  | _ :: rest => elementsOf rest

end

theorem nodesOf_scalar (key : String) {v : Value} (hv : isScalar v = true)
    (rest : List (String × Value)) :
    nodesOf ((key, v) :: rest) = (key, .value v) :: nodesOf rest := by
  rw [nodesOf]
  rintro item items rfl
  cases hv

theorem nodesOf_list (key : String) {tables : List (List (String × Value))} (hne : tables ≠ [])
    (rest : List (String × Value)) :
    nodesOf ((key, .list (tables.map .table)) :: rest) =
      (key, .tables (elementsOf (tables.map .table))) :: nodesOf rest := by
  cases tables with
  | nil => exact absurd rfl hne
  | cons table tables => rw [List.map_cons, nodesOf]

theorem elementsOf_map (tables : List (List (String × Value))) :
    elementsOf (tables.map .table) = tables.map nodesOf := by
  induction tables with
  | nil => rw [List.map_nil, elementsOf, List.map_nil]
  | cons t tables ih => rw [List.map_cons, elementsOf, ih, List.map_cons]

theorem elementValues_map (elements : List Fields) :
    elementValues elements = elements.map fun fields => .table (fieldValues fields) := by
  induction elements with
  | nil => rw [elementValues, List.map_nil]
  | cons fields elements ih => rw [elementValues, ih, List.map_cons]

/-- The nodes of a shaped table stand for its fields. -/
theorem Shaped.fieldValues_nodesOf {depth : Nat} {fields : List (String × Value)}
    (h : Shaped depth fields) : fieldValues (nodesOf fields) = fields := by
  induction h with
  | nil depth => rw [nodesOf, fieldValues]
  | pair hkey hv hrest ih => rw [nodesOf_scalar _ hv, fieldValues, ih, Node.toValue]
  | list hkey hne hlists htables hrest ihtables ih =>
    rw [nodesOf_list _ hne, fieldValues, ih, Node.toValue, elementValues_map, elementsOf_map,
      List.map_map]
    congr 3
    apply List.map_congr_left
    intro t ht
    exact congrArg Value.table (ihtables t ht)

/-- The statements of the tables of a list add these tables to the list, if the statements of each
of them fill an empty table with its nodes. -/
theorem foldlM_elementStatements (levels : List Level) {before : Fields} {key : String}
    (hkey : ∀ f ∈ before, f.1 ≠ key) {tables : List (List (String × Value))}
    (htables : ∀ t ∈ tables, ∀ levels, ∃ path,
      (pairStatements t ++ listStatements (pathOf levels) t).foldlM Draft.add
        ⟨plug levels [], pathOf levels⟩ = some ⟨plug levels (nodesOf t), path⟩)
    (elements : List Fields) (path : List String) :
    ∃ path', (elementStatements (pathOf levels ++ [key]) (tables.map .table)).foldlM Draft.add
        ⟨plug levels (withElements before key elements), path⟩ =
      some ⟨plug levels (withElements before key (elements ++ tables.map nodesOf)), path'⟩ := by
  induction tables generalizing elements path with
  | nil =>
    refine ⟨path, ?_⟩
    rw [List.map_nil, elementStatements, List.map_nil, List.append_nil]
    rfl
  | cons t tables ih =>
    let level : Level := ⟨before, key, elements, hkey⟩
    have hpath : pathOf (levels ++ [level]) = pathOf levels ++ [key] := by simp [pathOf, level]
    have hopen : Draft.add ⟨plug levels (withElements before key elements), path⟩
        (.element (pathOf levels ++ [key])) =
          some ⟨plug (levels ++ [level]) [], pathOf (levels ++ [level])⟩ :=
      add_element level levels path
    obtain ⟨inner, hfill⟩ := htables t List.mem_cons_self (levels ++ [level])
    -- a table that has been filled is one more element of its list
    have hfilled : plug (levels ++ [level]) (nodesOf t) =
        plug levels (withElements before key (elements ++ [nodesOf t])) := by
      rw [plug_append, withElements_append]
    obtain ⟨path', hrest⟩ := ih (fun t ht => htables t (List.mem_cons_of_mem _ ht))
      (elements ++ [nodesOf t]) inner
    refine ⟨path', ?_⟩
    rw [List.append_assoc] at hrest
    rw [hpath, hfilled] at hfill
    rw [hpath] at hopen
    rw [List.map_cons, elementStatements, List.foldlM_append, List.foldlM_cons, hopen]
    simp only [Option.bind_eq_bind, Option.bind_some]
    rw [hfill]
    exact hrest

/-- The statements of a shaped table add its nodes to the table that is being filled.  Pairs are
only added while no list has been opened. -/
theorem Shaped.foldlM_statements {depth : Nat} {fields : List (String × Value)}
    (h : Shaped depth fields) (levels : List Level) (before : Fields) (path : List String)
    (hfresh : ∀ f ∈ fields, ∀ g ∈ before, g.1 ≠ f.1)
    (hpath : path = pathOf levels ∨ pairStatements fields = []) :
    ∃ path', (pairStatements fields ++ listStatements (pathOf levels) fields).foldlM Draft.add
        ⟨plug levels before, path⟩ =
      some ⟨plug levels (before ++ nodesOf fields), path'⟩ := by
  induction h generalizing levels before path with
  | nil depth =>
    refine ⟨path, ?_⟩
    rw [listStatements, nodesOf, List.append_nil, List.append_nil]
    rfl
  | @pair depth key v rest hkey hv hrest ih =>
    -- there is a pair, so no list has been opened yet
    have hhere : path = pathOf levels := by
      rcases hpath with hpath | hnone
      · exact hpath
      · rw [pairStatements_scalar _ hv] at hnone
        cases hnone
    have hadd := add_pair levels (hfresh (key, v) List.mem_cons_self) v
    obtain ⟨path', hread⟩ := ih levels (before ++ [(key, .value v)]) path (by
        intro f hf g hg
        rcases List.mem_append.1 hg with hg | hg
        · exact hfresh f (List.mem_cons_of_mem _ hf) g hg
        · rw [List.mem_singleton.1 hg]
          exact (hkey f hf).symm) (.inl hhere)
    refine ⟨path', ?_⟩
    rw [pairStatements_scalar _ hv, listStatements_scalar _ _ hv, nodesOf_scalar _ hv,
      List.cons_append, List.foldlM_cons, hhere, hadd]
    simp only [Option.bind_eq_bind, Option.bind_some]
    rw [hhere, List.append_assoc] at hread
    exact hread
  | @list depth key tables rest hkey hne hlists htables hrest ihtables ih =>
    -- no pair comes after a list
    have hnone : pairStatements rest = [] := pairStatements_eq_nil hlists
    obtain ⟨inner, helements⟩ := foldlM_elementStatements levels
      (hfresh (key, .list (tables.map .table)) List.mem_cons_self) (fun t ht levels =>
        ihtables t ht levels [] (pathOf levels) (by simp) (.inl rfl)) [] path
    obtain ⟨path', hread⟩ := ih levels
      (before ++ [(key, .tables (tables.map nodesOf))]) inner (by
        intro f hf g hg
        rcases List.mem_append.1 hg with hg | hg
        · exact hfresh f (List.mem_cons_of_mem _ hf) g hg
        · rw [List.mem_singleton.1 hg]
          exact (hkey f hf).symm) (.inr hnone)
    refine ⟨path', ?_⟩
    have hlist : withElements before key ([] ++ tables.map nodesOf) =
        before ++ [(key, .tables (tables.map nodesOf))] := by
      cases tables with
      | nil => exact absurd rfl hne
      | cons t tables => rfl
    rw [hlist] at helements
    rw [hnone, List.nil_append, List.append_assoc] at hread
    rw [pairStatements_list _ hne, listStatements_list _ _ hne, nodesOf_list _ hne, hnone,
      List.nil_append, List.foldlM_append, elementsOf_map]
    rw [withElements] at helements
    rw [helements]
    exact hread

/-- The statements of a shaped table build it up. -/
theorem Shaped.assemble_statements {depth : Nat} {fields : List (String × Value)}
    (h : Shaped depth fields) :
    assemble (pairStatements fields ++ listStatements [] fields) = some (.table fields) := by
  obtain ⟨path, hread⟩ := h.foldlM_statements [] [] [] (by simp) (.inl rfl)
  have hstart : ({} : Draft) = ⟨plug [] [], []⟩ := rfl
  rw [assemble, hstart]
  show (((pairStatements fields ++ listStatements (pathOf []) fields).foldlM Draft.add
    ⟨plug [] [], []⟩).bind _) = _
  rw [hread]
  show some (Value.table (fieldValues (nodesOf fields))) = _
  rw [h.fieldValues_nodesOf]

/-- What is written starts with a key or with an empty line, if it is not empty. -/
theorem Shaped.head?_texts {depth : Nat} {fields : List (String × Value)} (h : Shaped depth fields)
    {path pairs lists : String} (htexts : fieldTexts? path fields = some (pairs, lists)) :
    (∀ c ∈ pairs.toList.head?, StartsKey c) ∧ (∀ c ∈ lists.toList.head?, c = '\n') := by
  induction h generalizing pairs lists with
  | nil depth =>
    rw [fieldTexts?] at htexts
    cases htexts
    exact ⟨by simp, by simp⟩
  | @pair depth key v rest hkey hv hrest ih =>
    rw [fieldTexts?_scalar _ _ hv] at htexts
    simp only [Option.bind_eq_bind, Option.bind_eq_some_iff] at htexts
    obtain ⟨text, htext, ⟨pairs', lists'⟩, hfields, heq⟩ := htexts
    cases heq
    refine ⟨?_, (ih hfields).2⟩
    obtain ⟨c, tail, hcons, hc⟩ := exists_cons_keyText key
    simpa [hcons] using hc
  | @list depth key tables rest hkey hne hlists htables hrest ihtables ih =>
    rw [fieldTexts?_list _ _ hne] at htexts
    simp only [Option.bind_eq_bind, Option.bind_eq_some_iff] at htexts
    obtain ⟨inner, hinner, ⟨pairs', lists'⟩, hfields, heq⟩ := htexts
    cases heq
    refine ⟨(ih hfields).1, ?_⟩
    obtain ⟨t, tables, rfl⟩ := List.exists_cons_of_ne_nil hne
    rw [List.map_cons, elementTexts?] at hinner
    simp only [Option.bind_eq_bind, Option.bind_eq_some_iff] at hinner
    obtain ⟨texts, -, after, -, heq⟩ := hinner
    cases heq
    simp

/-- A shaped table that has been written is read back. -/
theorem Shaped.read_write? {fields : List (String × Value)} (h : Shaped (depthLimit - 1) fields)
    {text : String} (htext : write? fields = some text) : read text = some (.table fields) := by
  rw [write?, Option.map_eq_some_iff] at htext
  obtain ⟨⟨pairs, lists⟩, htexts, rfl⟩ := htext
  have hpath : fieldTexts? (pathText []) fields = some (pairs, lists) := htexts
  obtain ⟨hpairs, hlists⟩ := h.spells [] (by decide) hpath
  have hspells := hpairs.append hlists
  rw [← String.toList_append] at hspells
  -- no mark of byte order comes first
  have hmark : ∀ rest, (pairs ++ lists).toList ≠ '\uFEFF' :: rest := by
    obtain ⟨hstart, hline⟩ := h.head?_texts htexts
    intro rest heq
    rw [String.toList_append] at heq
    cases hcases : pairs.toList with
    | nil =>
      rw [hcases, List.nil_append] at heq
      rw [heq] at hline
      exact absurd (hline '\uFEFF' rfl) (by decide)
    | cons c tail =>
      rw [hcases] at heq hstart
      rw [(List.cons.inj heq).1] at hstart
      exact absurd (hstart '\uFEFF' rfl) (by decide)
  have hchars : read (pairs ++ lists) = (readStatements ((pairs ++ lists).toList.length + 1)
      (pairs ++ lists).toList).bind assemble := by
    rw [read]
    split
    · next rest heq => exact absurd heq (hmark rest)
    · rfl
  rw [hchars, hspells.readStatements]
  exact h.assemble_statements

/-! ## Integers -/

mutual

/-- All integers in a value have a place in TOML. -/
def Fits : Value → Prop
  | .int i => isInteger i = true
  | .list items => ItemsFit items
  | .table fields => FieldsFit fields
  | _ => True

/-- All integers in the items of a list have a place in TOML. -/
def ItemsFit : List Value → Prop
  | [] => True
  | v :: rest => Fits v ∧ ItemsFit rest

/-- All integers in the fields of a table have a place in TOML. -/
def FieldsFit : List (String × Value) → Prop
  | [] => True
  | (_, v) :: rest => Fits v ∧ FieldsFit rest

end

theorem itemsFit_iff {items : List Value} : ItemsFit items ↔ ∀ v ∈ items, Fits v := by
  induction items with
  | nil => rw [ItemsFit]; simp
  | cons v items ih => rw [ItemsFit, ih, List.forall_mem_cons]

theorem fieldsFit_iff {fields : List (String × Value)} :
    FieldsFit fields ↔ ∀ f ∈ fields, Fits f.2 := by
  induction fields with
  | nil => rw [FieldsFit]; simp
  | cons f fields ih => rw [FieldsFit, ih, List.forall_mem_cons]

theorem exists_inlineText?_iff {v : Value} (hv : isScalar v = true) :
    (∃ text, inlineText? v = some text) ↔ Fits v := by
  cases v with
  | bool b => simp [inlineText?, Fits]
  | int i => simp [inlineText?, Fits]
  | text s => simp [inlineText?, Fits]
  | list items =>
    cases items with
    | nil => simp [inlineText?, Fits, ItemsFit]
    | cons item items => cases hv
  | null => cases hv
  | real => cases hv
  | moment => cases hv
  | table => cases hv
  | unreadable => cases hv

theorem exists_elementTexts?_iff (header : String) {tables : List (List (String × Value))}
    (htables : ∀ t ∈ tables, (∃ texts, fieldTexts? (header ++ ".") t = some texts) ↔ FieldsFit t) :
    (∃ text, elementTexts? header (tables.map .table) = some text) ↔
      ItemsFit (tables.map .table) := by
  induction tables with
  | nil => simp [elementTexts?, ItemsFit]
  | cons t tables ih =>
    have ht := htables t List.mem_cons_self
    have hrest := ih fun t ht => htables t (List.mem_cons_of_mem _ ht)
    rw [List.map_cons, elementTexts?, ItemsFit, Fits, ← ht, ← hrest]
    simp only [Option.bind_eq_bind, Option.bind_eq_some_iff, Option.some.injEq]
    constructor
    · rintro ⟨text, texts, hfields, after, hafter, -⟩
      exact ⟨⟨texts, hfields⟩, after, hafter⟩
    · rintro ⟨⟨texts, hfields⟩, after, hafter⟩
      exact ⟨_, texts, hfields, after, hafter, rfl⟩

theorem Shaped.exists_fieldTexts?_iff {depth : Nat} {fields : List (String × Value)}
    (h : Shaped depth fields) (path : String) :
    (∃ texts, fieldTexts? path fields = some texts) ↔ FieldsFit fields := by
  induction h generalizing path with
  | nil depth => simp [fieldTexts?, FieldsFit]
  | @pair depth key v rest hkey hv hrest ih =>
    rw [fieldTexts?_scalar _ _ hv, FieldsFit, ← exists_inlineText?_iff hv, ← ih path]
    simp only [Option.bind_eq_bind, Option.bind_eq_some_iff, Option.some.injEq]
    constructor
    · rintro ⟨texts, text, htext, rests, hrests, -⟩
      exact ⟨⟨text, htext⟩, rests, hrests⟩
    · rintro ⟨⟨text, htext⟩, rests, hrests⟩
      exact ⟨_, text, htext, rests, hrests, rfl⟩
  | @list depth key tables rest hkey hne hlists htables hrest ihtables ih =>
    rw [fieldTexts?_list _ _ hne, FieldsFit, Fits, ← ih path,
      ← exists_elementTexts?_iff (path ++ keyText key) fun t ht => ihtables t ht _]
    simp only [Option.bind_eq_bind, Option.bind_eq_some_iff, Option.some.injEq]
    constructor
    · rintro ⟨texts, inner, hinner, rests, hrests, -⟩
      exact ⟨⟨inner, hinner⟩, rests, hrests⟩
    · rintro ⟨⟨inner, hinner⟩, rests, hrests⟩
      exact ⟨_, inner, hinner, rests, hrests, rfl⟩

/-- A shaped table can be written if and only if its integers have a place in TOML. -/
theorem Shaped.exists_write?_iff {depth : Nat} {fields : List (String × Value)}
    (h : Shaped depth fields) : (∃ text, write? fields = some text) ↔ FieldsFit fields := by
  rw [← h.exists_fieldTexts?_iff ""]
  simp [write?, Option.map_eq_some_iff]

end FileTriage.Toml
