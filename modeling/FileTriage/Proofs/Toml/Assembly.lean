/-
Statements build up the table that they were made from.

While the tables of a text are written one after another, the table that is being filled is always
the last element of the last list of the last element, and so on down from the whole text.  `plug`
puts a table at that place.  A statement changes only what is there, so the statements of a table
can be followed without looking at the tables around it.
-/
import FileTriage.Data.Toml.Table
import Mathlib.Data.List.Basic

namespace FileTriage.Toml

/-! ## The place that is being filled -/

section Field

variable {key : String} {fields : Fields}

theorem field?_eq_none (h : ∀ f ∈ fields, f.1 ≠ key) : field? key fields = none := by
  rw [field?, Option.map_eq_none_iff, List.find?_eq_none]
  intro f hf
  simpa using h f hf

theorem field?_append_self (h : ∀ f ∈ fields, f.1 ≠ key) (node : Node) :
    field? key (fields ++ [(key, node)]) = some node := by
  have hnone : fields.find? (fun f => f.1 = key) = none := by
    rw [List.find?_eq_none]
    intro f hf
    simpa using h f hf
  rw [field?, List.find?_append, hnone]
  simp

theorem replaceField_append_self (h : ∀ f ∈ fields, f.1 ≠ key) (node node' : Node) :
    replaceField key node' (fields ++ [(key, node)]) = fields ++ [(key, node')] := by
  have hkeep : fields.map (fun f => if f.1 = key then (key, node') else f) = fields := by
    conv_rhs => rw [← List.map_id fields]
    apply List.map_congr_left
    intro f hf
    rw [if_neg (h f hf)]
    rfl
  rw [replaceField, List.map_append, hkeep]
  simp

end Field

/-- A table around the place that is being filled: the fields that came before, and the list under
a new key, of which the elements before the last one are kept. -/
structure Level where
  before : Fields
  key : String
  elements : List Fields
  fresh : ∀ f ∈ before, f.1 ≠ key

/-- The fields of the whole text, with a table at the place that is being filled. -/
def plug : List Level → Fields → Fields
  | [], fields => fields
  | level :: levels, fields =>
    level.before ++ [(level.key, .tables (level.elements ++ [plug levels fields]))]

/-- The path to the place that is being filled. -/
def pathOf (levels : List Level) : List String := levels.map Level.key

theorem plug_append (levels : List Level) (level : Level) (fields : Fields) :
    plug (levels ++ [level]) fields =
      plug levels (level.before ++ [(level.key, .tables (level.elements ++ [fields]))]) := by
  induction levels with
  | nil => rfl
  | cons first levels ih => rw [List.cons_append, plug, ih, plug]

/-- A change at the end of the path changes what is at that place, and nothing else. -/
theorem changeAt_plug (made : Origin) (change : Origin → Fields → Option Fields)
    (levels : List Level) (fields : Fields) :
    changeAt made change (pathOf levels) .header (plug levels fields) =
      (change .header fields).map (plug levels) := by
  induction levels with
  | nil =>
    show change .header fields = (change .header fields).map id
    rw [Option.map_id]
    rfl
  | cons level levels ih =>
    -- the path goes through the last element of each list
    have hlast : (level.elements ++ [plug levels fields]).reverse =
        plug levels fields :: level.elements.reverse := by simp
    show changeAt made change (level.key :: pathOf levels) .header
      (plug (level :: levels) fields) = _
    rw [plug, changeAt, field?_append_self level.fresh]
    dsimp only
    rw [hlast]
    dsimp only
    rw [ih]
    cases change .header fields with
    | none => rfl
    | some fields' =>
      simp [replaceField_append_self level.fresh, plug]

/-! ## Statements -/

/-- A pair adds a value to the table that is being filled. -/
theorem add_pair (levels : List Level) {fields : Fields} {key : String}
    (h : ∀ f ∈ fields, f.1 ≠ key) (v : Value) :
    Draft.add ⟨plug levels fields, pathOf levels⟩ (.pair [key] v) =
      some ⟨plug levels (fields ++ [(key, .value v)]), pathOf levels⟩ := by
  have hchange : addPair [key] v .header fields = some (fields ++ [(key, .value v)]) := by
    simp [addPair, changeAt, field?_eq_none h]
  simp [Draft.add, changeAt_plug, hchange]

/-- The fields of a table with a list under a new key, which is there once it has an element. -/
def withElements (fields : Fields) (key : String) : List Fields → Fields
  | [] => fields
  | elements => fields ++ [(key, .tables elements)]

theorem withElements_append (fields : Fields) (key : String) (elements : List Fields)
    (last : Fields) :
    withElements fields key (elements ++ [last]) =
      fields ++ [(key, .tables (elements ++ [last]))] := by
  cases elements <;> rfl

/-- A header in double brackets opens one more table of its list, which is then being filled. -/
theorem add_element (level : Level) (levels : List Level) (path : List String) :
    Draft.add ⟨plug levels (withElements level.before level.key level.elements), path⟩
        (.element (pathOf levels ++ [level.key])) =
      some ⟨plug (levels ++ [level]) [], pathOf (levels ++ [level])⟩ := by
  have hopen : openElement level.key .header
      (withElements level.before level.key level.elements) =
        some (level.before ++ [(level.key, .tables (level.elements ++ [[]]))]) := by
    cases helements : level.elements with
    | nil => simp [withElements, openElement, field?_eq_none level.fresh]
    | cons first elements =>
      simp [withElements, openElement, field?_append_self level.fresh,
        replaceField_append_self level.fresh]
  have hpath : pathOf (levels ++ [level]) = pathOf levels ++ [level.key] := by simp [pathOf]
  simp [Draft.add, changeAt_plug, hopen, plug_append, hpath]

end FileTriage.Toml
