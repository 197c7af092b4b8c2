/-
Which files sets a job applies.

A job applies every set that is not turned off, also one that nobody knew of when the settings
were made.
-/
import FileTriage.Data.Decoding
import FileTriage.NameMap
import FileTriage.Selection.Basic

namespace FileTriage

/-- The sets that have been turned on and off. -/
structure JobSettings where
  enabled : NameSet := .ofList []
  disabled : NameSet := .ofList []
deriving DecidableEq

namespace JobSettings

/-- Settings of lists of names. -/
def ofNames (enabled disabled : List String) : JobSettings :=
  { enabled := .ofList enabled, disabled := .ofList disabled }

/-- Turns on the available sets that are selected, and off the others. -/
def ofSelection (selections available : List String) : JobSettings :=
  let (enabled, disabled) := available.partition (Selection.anySelects selections)
  ofNames enabled disabled

/-- Whether the settings leave a set on. -/
def isEnabled (s : JobSettings) (name : String) : Bool := !s.disabled.contains name

/-! ## Written form -/

/-- A set of names as a value. -/
def namesValue (names : NameSet) : Value := .list (names.names.map .text)

/-- The written form of settings. -/
def toValue (s : JobSettings) : Value :=
  .table [("enabled", namesValue s.enabled), ("disabled", namesValue s.disabled)]

/-- The fields of settings as they are collected. -/
structure Draft where
  enabled : Option (List String) := none
  disabled : Option (List String) := none

/-- Adds a field to a draft. -/
def Draft.set (name : String) (v : Value) (d : Draft) : Except DataFault Draft :=
  match name with
  | "enabled" => (Value.fill d.enabled (v.asList Value.asText)).map ({ d with enabled := · })
  | "disabled" => (Value.fill d.disabled (v.asList Value.asText)).map ({ d with disabled := · })
  | _ => .ok d

/-- Reads settings; both fields may be left out. -/
def ofValue (v : Value) : Except DataFault JobSettings := do
  let c ← Value.collect ⟨["enabled", "disabled"], Draft.set⟩ (.error .malformed) {} v
  .ok (ofNames (c.draft.enabled.getD []) (c.draft.disabled.getD []))

end JobSettings

end FileTriage
