/-
Values of data formats.

TOML and JSON texts are read into the same type of values, and written from it.  A reader that
meets a fault keeps it as a value at its place, so that whoever takes the value apart meets faults
in the order in which the text has them, and parts that nobody asks for may be faulty in ways that
do not show.
-/
namespace FileTriage

/-- What is wrong with a part of a text that could not be read. -/
inductive Unreadable where
  /-- The text is not well formed here, and nothing after this place has been read. -/
  | malformed
  /-- The part is well formed, but what it says cannot be represented; it can be passed over. -/
  | unusable
  /-- The name of this field cannot be represented; the table that has it can be passed over. -/
  | unusableName
deriving DecidableEq, Repr

/-- A value of a data format. -/
inductive Value where
  | null
  | bool (b : Bool)
  | int (i : Int)
  /-- A number that is not an integer, as it was written. -/
  | real (text : String)
  | text (s : String)
  /-- A date, a time or both, as it was written. -/
  | moment (text : String)
  | list (items : List Value)
  | table (fields : List (String × Value))
  | unreadable (why : Unreadable)
deriving Repr, Inhabited

namespace Value

/-- Whether a value is null. -/
def isNull : Value → Bool
  | null => true
  | _ => false

/-- Whether a value is null or a table with no field. -/
def isNullOrEmpty : Value → Bool
  | null | table [] => true
  | _ => false

/-- Whether a value stands in the place of a field whose name cannot be represented. -/
def isNameless : Value → Bool
  | unreadable .unusableName => true
  | _ => false

mutual

/-- Whether a value that nobody asks for can be passed over. -/
def canSkip : Value → Bool
  | list items => canSkipItems items
  | table fields => canSkipFields fields
  | unreadable why => why ≠ .malformed
  | _ => true

/-- Whether all items can be passed over. -/
def canSkipItems : List Value → Bool
  | [] => true
  | v :: rest => v.canSkip && canSkipItems rest

/-- Whether the values of all fields can be passed over. -/
def canSkipFields : List (String × Value) → Bool
  | [] => true
  | (_, v) :: rest => v.canSkip && canSkipFields rest

end

mutual

/-- Whether a value can be kept whole, for later use: nothing in it is unreadable. -/
def isWhole : Value → Bool
  | list items => areWhole items
  | table fields => haveWhole fields
  | unreadable _ => false
  | _ => true

/-- Whether all items are whole. -/
def areWhole : List Value → Bool
  | [] => true
  | v :: rest => v.isWhole && areWhole rest

/-- Whether the values of all fields are whole. -/
def haveWhole : List (String × Value) → Bool
  | [] => true
  | (_, v) :: rest => v.isWhole && haveWhole rest

end

/-- The value of a field, if the value is a table that has it. -/
def field? (v : Value) (name : String) : Option Value :=
  match v with
  | table fields => (fields.find? fun f => f.1 = name).map (·.2)
  | _ => none

/-- A natural number as a value. -/
def nat (n : Nat) : Value := int n

/-- A text, or null. -/
def textOrNull : Option String → Value
  | some s => text s
  | none => null

end Value

end FileTriage
