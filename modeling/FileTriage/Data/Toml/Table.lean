/-
Tables as the statements of a TOML text build them up.

A table remembers how it came about, because that decides what may still be added to it: a table
that only a longer key has named may get a header of its own, one that dotted keys have made may
get more dotted keys, and a value is closed for good.
-/
import FileTriage.Data.Value

namespace FileTriage.Toml

/-- How a table came about. -/
inductive Origin where
  /-- By a header, or as the whole text. -/
  | header
  /-- As a part of the key of another header. -/
  | path
  /-- By a dotted key. -/
  | dotted
deriving DecidableEq, Repr

/-- What stands under a key. -/
inductive Node where
  | value (v : Value)
  | table (origin : Origin) (fields : List (String × Node))
  /-- The tables of one header in double brackets. -/
  | tables (elements : List (List (String × Node)))
deriving Inhabited

/-- The fields of a table. -/
abbrev Fields := List (String × Node)

/-- Puts a node in the place of the one under a key. -/
def replaceField (key : String) (node : Node) (fields : Fields) : Fields :=
  fields.map fun f => if f.1 = key then (key, node) else f

/-- What stands under a key. -/
def field? (key : String) (fields : Fields) : Option Node :=
  (fields.find? fun f => f.1 = key).map (·.2)

/-- Changes the table at the end of a path, where `made` is how tables come about that the path
names for the first time.  Gives nothing where the path leads through a value, or where `change`
gives nothing.  Dotted keys add nothing to tables that have a header. -/
def changeAt (made : Origin) (change : Origin → Fields → Option Fields) :
    List String → Origin → Fields → Option Fields
  | [], origin, fields => change origin fields
  | key :: path, _, fields =>
    match field? key fields with
    | none => do
      let inner ← changeAt made change path made []
      some (fields ++ [(key, .table made inner)])
    | some (.value _) => none
    | some (.table origin inner) =>
      if made = .dotted ∧ origin = .header then none
      else do
        let inner ← changeAt made change path origin inner
        some (replaceField key (.table origin inner) fields)
    | some (.tables elements) =>
      match elements.reverse with
      | [] => none
      | last :: before => do
        let last ← changeAt made change path .header last
        some (replaceField key (.tables (last :: before).reverse) fields)

/-- Adds a value under a key that may have several parts.  The last part must be new, and dotted
keys only add to tables that dotted keys have made. -/
def addPair (key : List String) (v : Value) (origin : Origin) (fields : Fields) : Option Fields :=
  match key.reverse with
  | [] => none
  | name :: path =>
    let dotted := !path.isEmpty
    changeAt .dotted (fun origin fields =>
      if (origin = .dotted) ≠ dotted then none
      else if (field? name fields).isSome then none
      else some (fields ++ [(name, .value v)])) path.reverse origin fields

/-- Opens the table of a header in single brackets. -/
def openTable (name : String) (_ : Origin) (fields : Fields) : Option Fields :=
  match field? name fields with
  | none => some (fields ++ [(name, .table .header [])])
  | some (.table .path inner) =>
    some ((fields.filter fun f => f.1 ≠ name) ++ [(name, .table .header inner)])
  | some _ => none

/-- Opens one more table of a header in double brackets. -/
def openElement (name : String) (_ : Origin) (fields : Fields) : Option Fields :=
  match field? name fields with
  | none => some (fields ++ [(name, .tables [[]])])
  | some (.tables elements) => some (replaceField name (.tables (elements ++ [[]])) fields)
  | some _ => none

mutual

/-- The value that a node stands for. -/
def Node.toValue : Node → Value
  | .value v => v
  | .table _ fields => .table (fieldValues fields)
  | .tables elements => .list (elementValues elements)

/-- The values of the fields of a table. -/
def fieldValues : List (String × Node) → List (String × Value)
  | [] => []
  | (name, node) :: rest => (name, node.toValue) :: fieldValues rest

/-- The values of the tables of one header. -/
def elementValues : List (List (String × Node)) → List Value
  | [] => []
  | fields :: rest => .table (fieldValues fields) :: elementValues rest

end

/-- One statement of a TOML text. -/
inductive Statement where
  | pair (key : List String) (v : Value)
  | header (key : List String)
  | element (key : List String)

/-- The whole text so far, and the path of the table that pairs are added to. -/
structure Draft where
  fields : Fields := []
  path : List String := []

/-- Adds one statement; nothing where it contradicts what came before. -/
def Draft.add (d : Draft) : Statement → Option Draft
  | .pair key v => do
    let fields ← changeAt .path (addPair key v) d.path .header d.fields
    some { d with fields }
  | .header key =>
    match key.reverse with
    | [] => none
    | name :: path => do
      let fields ← changeAt .path (openTable name) path.reverse .header d.fields
      some { fields, path := key }
  | .element key =>
    match key.reverse with
    | [] => none
    | name :: path => do
      let fields ← changeAt .path (openElement name) path.reverse .header d.fields
      some { fields, path := key }

/-- The table that statements describe. -/
def assemble (statements : List Statement) : Option Value := do
  let draft ← statements.foldlM Draft.add {}
  some (.table (fieldValues draft.fields))

/-- The table that the pairs between braces describe. -/
def inlineTable (pairs : List (List String × Value)) : Option Value := do
  let fields ← pairs.foldlM (fun fields (key, v) => addPair key v .header fields) []
  some (.table (fieldValues fields))

end FileTriage.Toml
