/-
The two formats of definitions.

TOML is the format that definitions are written in: a document with a version and a list of sets.
JSON is an older format, a table of sets, which can still be read: whatever is not read as the one
is read as the other.  In both, sets are found under their own names; the keys of the older format
do not count.
-/
import FileTriage.Data.Json.Reader
import FileTriage.Data.Json.Writer
import FileTriage.Data.Toml.Reader
import FileTriage.Data.Toml.Writer
import FileTriage.Definitions.Basic
import FileTriage.Rules.Form
import FileTriage.Text.Blank

namespace FileTriage

open Value (nat list table fill collect)

/-- Why bytes are not definitions. -/
inductive DecodeError where
  | notUtf8 (fault : Text.Utf8.Fault)
  | notToml
  | tomlData (fault : DataFault)
  | notJson
  | jsonData (fault : DataFault)
  | duplicateName (name : String)
  | unsupportedVersion (version : UInt32)
deriving DecidableEq, Repr

/-- Why definitions cannot be written. -/
inductive EncodeError where
  /-- A set stands under a key that is not its name. -/
  | keyMismatch (key name : String)
  /-- A number does not fit into the format. -/
  | unwritable
deriving DecidableEq, Repr

/-- The wording of an error, where it is one of this library. -/
def DecodeError.message? : DecodeError → Option String
  | notUtf8 fault => some s!"Definitions are not valid UTF-8: {fault.message}"
  | tomlData fault | jsonData fault => fault.message?
  | duplicateName name => some s!"Duplicate files set name '{name}'"
  | unsupportedVersion version => some s!"Unsupported definitions format version {version.toNat}"
  | notToml | notJson => none

/-- The wording of an error, where it is one of this library. -/
def EncodeError.message? : EncodeError → Option String
  | keyMismatch key name => some s!"Files set '{name}' is stored under the key '{key}'"
  | unwritable => none

namespace Definitions

/-- The version of the TOML format. -/
def formatVersion : UInt32 := 1

/-- Refuses sets of which one does not stand under its name. -/
def checkKeys (sets : Definitions) : Except EncodeError Unit :=
  match sets.misplaced? with
  | some (key, s) => .error (.keyMismatch key s.name)
  | none => .ok ()

/-- Sets under their names, as the result of reading them. -/
def byName (sets : List FilesSet) : Except DecodeError Definitions :=
  match ofSets sets with
  | .ok m => .ok m
  | .error name => .error (.duplicateName name)

/-! ## TOML -/

/-- The document of definitions. -/
def document (sets : Definitions) : List (String × Value) :=
  [("format_version", nat formatVersion.toNat), ("set", list (sets.values.map FilesSet.toValue))]

/-- Definitions as TOML. -/
def toToml (sets : Definitions) : Except EncodeError String := do
  sets.checkKeys
  match Toml.write? (document sets) with
  | some text => .ok text
  | none => .error .unwritable

/-- The fields of a document as they are collected. -/
structure DocumentDraft where
  version : Option UInt32 := none
  sets : Option (List FilesSet) := none

/-- Adds a field to a draft.  Items beyond the last field of a record do not count in TOML. -/
def DocumentDraft.set (name : String) (v : Value) (d : DocumentDraft) :
    Except DataFault DocumentDraft :=
  match name with
  | "format_version" => (fill d.version v.asWord32).map ({ d with version := · })
  | "set" => (fill d.sets (v.asList (FilesSet.ofValue (.ok ())))).map ({ d with sets := · })
  | _ => .ok d

/-- The version and the sets of a document. -/
def readDocument (v : Value) : Except DataFault (UInt32 × List FilesSet) := do
  let c ← collect ⟨["format_version", "set"], DocumentDraft.set⟩ (.ok ()) {} v
  let version ← c.require "format_version" c.draft.version
  .ok (version, c.draft.sets.getD [])

/-- Reads definitions from the text of a TOML document. -/
def ofTomlText (text : String) : Except DecodeError Definitions :=
  if Text.allBlank text then .ok .empty
  else
    match Toml.read text with
    | none => .error .notToml
    | some v =>
      match readDocument v with
      | .error fault => .error (.tomlData fault)
      | .ok (version, sets) =>
        if formatVersion < version then .error (.unsupportedVersion version) else byName sets

/-- Reads definitions from TOML; a text of blanks has none. -/
def ofToml (bytes : List UInt8) : Except DecodeError Definitions :=
  match Text.Utf8.decode bytes with
  | .error fault => .error (.notUtf8 fault)
  | .ok text => ofTomlText text

/-! ## JSON -/

/-- Definitions as a table of sets. -/
def toValue (sets : Definitions) : Value :=
  table (sets.entries.map fun (key, s) => (key, s.toValue))

/-- Definitions as JSON. -/
def toJson (sets : Definitions) : Except EncodeError String := do
  sets.checkKeys
  .ok (Json.pretty sets.toValue)

/-- The sets of a table under their keys.  Items beyond the last field of a record make a JSON text
malformed. -/
def readTable : Value → Except DataFault Definitions
  | table fields => do
    let entries ← fields.mapM fun (key, v) => do
      let s ← FilesSet.ofValue (.error .malformed) v
      .ok (key, s)
    .ok (.ofList entries)
  | v => .error v.otherType

/-- What `read` makes of a JSON text. -/
def ofJsonText {α : Type} (read : Value → Except DataFault α) (bytes : List UInt8) :
    Except DecodeError α :=
  let doc := Json.read bytes
  match read doc.value with
  | .error .malformed => .error .notJson
  | .error fault => .error (.jsonData fault)
  | .ok a => if doc.complete then .ok a else .error .notJson

/-- Reads definitions from JSON. -/
def ofJson (bytes : List UInt8) : Except DecodeError Definitions := do
  let sets ← ofJsonText readTable bytes
  byName sets.values

/-! ## Either -/

/-- Reads definitions in whichever format they are; the error is that of the TOML reader. -/
def ofBytes (bytes : List UInt8) : Except DecodeError Definitions :=
  match ofToml bytes with
  | .ok sets => .ok sets
  | .error e =>
    match ofJson bytes with
    | .ok sets => .ok sets
    | .error _ => .error e

end Definitions

end FileTriage
