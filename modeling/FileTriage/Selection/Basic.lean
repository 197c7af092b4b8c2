/-
Selecting files sets by their names.

A selection with `*`, `?` or `[` is a pattern, anything else a name.  Where nothing is selected,
everything is.
-/
import FileTriage.Selection.Glob

namespace FileTriage.Selection

/-- Whether a selection is a pattern. -/
def isPattern (selection : String) : Bool :=
  selection.toList.any fun c => c = '*' || c = '?' || c = '['

/-- Whether a selection selects a name.  A pattern that cannot be read stands for itself. -/
def selects (selection name : String) : Bool :=
  if isPattern selection then
    match Glob.parse selection with
    | .ok pattern => pattern.isMatch name
    | .error _ => name = selection
  else name = selection

/-- Whether one of several selections selects a name. -/
def anySelects (selections : List String) (name : String) : Bool :=
  selections.isEmpty || selections.any fun s => selects s name

/-- A selection that cannot be read as a pattern. -/
structure Refusal where
  pattern : String
  error : GlobError
deriving DecidableEq, Repr

/-- The wording of a refusal. -/
def Refusal.message (r : Refusal) : String :=
  s!"Invalid glob pattern '{r.pattern}': {r.error.message}"

/-- Why a selection cannot be read, if it is a pattern that cannot. -/
def refusal? (selection : String) : Option Refusal :=
  if isPattern selection then
    match Glob.parse selection with
    | .ok _ => none
    | .error error => some ⟨selection, error⟩
  else none

/-- The first selection that cannot be read. -/
def validate (selections : List String) : Except Refusal Unit :=
  match selections.findSome? refusal? with
  | some r => .error r
  | none => .ok ()

end FileTriage.Selection
