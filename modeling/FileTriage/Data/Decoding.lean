/-
Taking values apart.

Whoever reads a value asks for a text, a number, a record; what is there instead is a fault.  A
record is a table, or a list of its fields in order.  The fields of a table are looked at in the
order in which they stand, so the first fault of a text is the one that is reported.
-/
import FileTriage.Data.Value
import FileTriage.Rules.Kind

namespace FileTriage

/-- Why a value is not what was asked for. -/
inductive DataFault where
  /-- The text is not well formed. -/
  | malformed
  | missingField (name : String)
  | unknownVariant (given : String) (known : List String)
  /-- The value has the wrong type, is out of range, or a field or item is there too often or not
  at all. -/
  | mismatch
  | refused (why : ConstructionError)
deriving DecidableEq, Repr

namespace DataFault

/-- A name between grave accents. -/
def marked (name : String) : String := "`" ++ name ++ "`"

/-- The known variants in a message. -/
def listed : List String → String
  | [a] => marked a
  | [a, b] => marked a ++ " or " ++ marked b
  | names => "one of " ++ ", ".intercalate (names.map marked)

/-- The wording of a fault; that of the others is left to the reader of the format. -/
def message? : DataFault → Option String
  | missingField name => some ("missing field " ++ marked name)
  | unknownVariant given known =>
    some ("unknown variant " ++ marked given ++ ", expected " ++ listed known)
  | refused why => some why.message
  | _ => none

end DataFault

namespace Value

/-! ## Scalars and lists -/

/-- The fault of a value that has another type than was asked for. -/
def otherType : Value → DataFault
  | unreadable _ => .malformed
  | _ => .mismatch

/-- The value as a text. -/
def asText : Value → Except DataFault String
  | text s => .ok s
  | v => .error v.otherType

/-- The value as a truth value. -/
def asBool : Value → Except DataFault Bool
  | bool b => .ok b
  | v => .error v.otherType

/-- The value as a natural number below a bound. -/
def asNat (bound : Nat) : Value → Except DataFault Nat
  | int i => if 0 ≤ i ∧ i < bound then .ok i.toNat else .error .mismatch
  | v => .error v.otherType

/-- The value as a number of 32 bits. -/
def asWord32 (v : Value) : Except DataFault UInt32 := (v.asNat UInt32.size).map UInt32.ofNat

/-- The value as a number of 64 bits. -/
def asWord64 (v : Value) : Except DataFault UInt64 := (v.asNat UInt64.size).map UInt64.ofNat

/-- The value as a list of what `read` makes of its items. -/
def asList {α : Type} (read : Value → Except DataFault α) : Value → Except DataFault (List α)
  | list items => items.mapM read
  | v => .error v.otherType

/-- The value as what `read` makes of it, or nothing where it is null. -/
def asOption {α : Type} (read : Value → Except DataFault α) : Value → Except DataFault (Option α)
  | null => .ok none
  | v => (read v).map some

/-- The name of a variant in a list of all of them. -/
def variantName {α : Type} [DecidableEq α] (known : List (String × α)) (a : α) : String :=
  match known.find? fun v => v.2 = a with
  | some v => v.1
  | none => ""

/-- What a name stands for in a list of names. -/
def variantOf {α : Type} (known : List (String × α)) (name : String) : Except DataFault α :=
  match known.lookup name with
  | some a => .ok a
  | none => .error (.unknownVariant name (known.map (·.1)))

/-- The only field of the table that a date or a time counts as, where a table is asked for. -/
def momentField : String := "$__toml_private_datetime"

/-- The value as one of several variants: its name, or a table with the name as its only field,
which holds nothing.  `isNothing` says what counts as nothing. -/
def asVariant {α : Type} (isNothing : Value → Bool) (known : List (String × α)) :
    Value → Except DataFault α
  | text name => variantOf known name
  | table [(name, content)] => do
    let a ← variantOf known name
    if isNothing content then .ok a else .error content.otherType
  | moment _ => (variantOf known momentField).bind fun _ => .error .mismatch
  | v => .error v.otherType

/-! ## Records -/

/-- A field of a draft, read for the first time; what is there twice is a fault. -/
def fill {α : Type} (slot : Option α) (read : Except DataFault α) : Except DataFault (Option α) :=
  match slot with
  | some _ => .error .mismatch
  | none => read.map some

/-- How the fields of a record are collected: their names in order, and what the value of each
adds to a draft. -/
structure RecordFormat (σ : Type) where
  names : List String
  set : String → Value → σ → Except DataFault σ

/-- What a record gives: a draft of it, and the fault that a missing field is. -/
structure Collected (σ : Type) where
  draft : σ
  missing : String → DataFault

/-- A field that has to be there. -/
def Collected.require {σ α : Type} (c : Collected σ) (name : String) (slot : Option α) :
    Except DataFault α :=
  match slot with
  | some a => .ok a
  | none => .error (c.missing name)

/-- Adds a field of a table to a draft; what is not a field of the record is passed over. -/
def RecordFormat.addField {σ : Type} (format : RecordFormat σ) (draft : σ)
    (field : String × Value) : Except DataFault σ :=
  if field.2.isNameless then .error .malformed
  else if format.names.contains field.1 then format.set field.1 field.2 draft
  else if field.2.canSkip then .ok draft
  else .error .malformed

/-- Collects the fields of a record.  `surplus` is what items beyond the last field are. -/
def collect {σ : Type} (format : RecordFormat σ) (surplus : Except DataFault Unit) (draft : σ) :
    Value → Except DataFault (Collected σ)
  | table fields => do
    let draft ← fields.foldlM format.addField draft
    .ok ⟨draft, .missingField⟩
  | list items => do
    let draft ← (format.names.zip items).foldlM (fun d (name, v) => format.set name v d) draft
    if format.names.length < items.length then surplus
    .ok ⟨draft, fun _ => .mismatch⟩
  | moment t => do
    let draft ← format.addField draft (momentField, text t)
    .ok ⟨draft, .missingField⟩
  | v => .error v.otherType

end Value

end FileTriage
