/-
The written form of file records.
-/
import FileTriage.Data.Decoding
import FileTriage.File

namespace FileTriage

open Value (text nat table null asVariant variantName fill collect)

/-- The meta types under their names. -/
def MetaType.variants : List (String × MetaType) :=
  [("regular", .regular), ("directory", .directory), ("virtual_directory", .virtualDirectory),
   ("other", .other)]

/-- The types of files under their names. -/
def FileType.variants : List (String × FileType) :=
  [("file_system", .fileSystem), ("local", .localFile), ("derived", .derived),
   ("carved", .carved), ("slack", .slack), ("unallocated", .unallocated)]

/-- The results of looking a file up under their names. -/
def KnownStatus.variants : List (String × KnownStatus) :=
  [("unknown", .unknown), ("known", .known), ("known_bad", .knownBad)]

/-- A value as an instant. -/
def Value.asInstant (v : Value) : Except DataFault Instant := do
  match Instant.ofText? (← v.asText) with
  | some t => .ok t
  | none => .error .mismatch

namespace FileRecord

/-- The written form of a record. -/
def toValue (f : FileRecord) : Value :=
  table [("id", nat f.id.toNat), ("name", text f.name), ("extension", text f.extension),
    ("parent_path", text f.parentPath),
    ("meta_type", text (variantName MetaType.variants f.metaType)),
    ("file_type", text (variantName FileType.variants f.fileType)),
    ("mime_type", Value.textOrNull f.mimeType), ("size", nat f.size.toNat),
    ("modified", Value.textOrNull (f.modified.map Instant.text)),
    ("known", text (variantName KnownStatus.variants f.known))]

/-- The fields of a record as they are collected. -/
structure Draft where
  id : Option UInt64 := none
  name : Option String := none
  extension : Option String := none
  parentPath : Option String := none
  metaType : Option MetaType := none
  fileType : Option FileType := none
  mimeType : Option (Option String) := none
  size : Option UInt64 := none
  modified : Option (Option Instant) := none
  known : Option KnownStatus := none

/-- A variant, where the table that holds it may only have nothing. -/
def asPlainVariant {α : Type} (known : List (String × α)) : Value → Except DataFault α :=
  asVariant Value.isNull known

/-- Adds a field to a draft. -/
def Draft.set (name : String) (v : Value) (d : Draft) : Except DataFault Draft :=
  match name with
  | "id" => (fill d.id v.asWord64).map ({ d with id := · })
  | "name" => (fill d.name v.asText).map ({ d with name := · })
  | "extension" => (fill d.extension v.asText).map ({ d with extension := · })
  | "parent_path" => (fill d.parentPath v.asText).map ({ d with parentPath := · })
  | "meta_type" =>
    (fill d.metaType (asPlainVariant MetaType.variants v)).map ({ d with metaType := · })
  | "file_type" =>
    (fill d.fileType (asPlainVariant FileType.variants v)).map ({ d with fileType := · })
  | "mime_type" => (fill d.mimeType (v.asOption Value.asText)).map ({ d with mimeType := · })
  | "size" => (fill d.size v.asWord64).map ({ d with size := · })
  | "modified" => (fill d.modified (v.asOption Value.asInstant)).map ({ d with modified := · })
  | "known" => (fill d.known (asPlainVariant KnownStatus.variants v)).map ({ d with known := · })
  | _ => .ok d

/-- The names of the fields of a record. -/
def fieldNames : List String :=
  ["id", "name", "extension", "parent_path", "meta_type", "file_type", "mime_type", "size",
   "modified", "known"]

/-- Reads a record.  Only the MIME type and the time may be left out of a table. -/
def ofValue (v : Value) : Except DataFault FileRecord := do
  let c ← collect ⟨fieldNames, Draft.set⟩ (.error .mismatch) {} v
  let d := c.draft
  let id ← c.require "id" d.id
  let name ← c.require "name" d.name
  let extension ← c.require "extension" d.extension
  let parentPath ← c.require "parent_path" d.parentPath
  let metaType ← c.require "meta_type" d.metaType
  let fileType ← c.require "file_type" d.fileType
  let size ← c.require "size" d.size
  let status ← c.require "known" d.known
  .ok { id, name, extension, parentPath, metaType, fileType, mimeType := d.mimeType.join, size
        modified := d.modified.join, known := status }

end FileRecord

end FileTriage
