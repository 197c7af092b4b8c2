/-
Writing JSON, on one line or indented by two blanks.
-/
import FileTriage.Data.Value

namespace FileTriage.Json

/-- One hexadecimal digit in lower case. -/
def hexDigit (n : Nat) : Char := Nat.digitChar n

/-- What a character is written as inside quotes. -/
def escaped (c : Char) : List Char :=
  if c = '"' then ['\\', '"']
  else if c = '\\' then ['\\', '\\']
  else if c = '\n' then ['\\', 'n']
  else if c = '\r' then ['\\', 'r']
  else if c = '\t' then ['\\', 't']
  else if c = '\x08' then ['\\', 'b']
  else if c = '\x0C' then ['\\', 'f']
  else if c.toNat < 0x20 then
    ['\\', 'u', '0', '0', hexDigit (c.toNat / 16), hexDigit (c.toNat % 16)]
  else [c]

/-- A text in quotes. -/
def quoted (s : String) : String :=
  "\"" ++ String.ofList (s.toList.flatMap escaped) ++ "\""

/-- The text of a value that is neither a list nor a table. -/
def scalarText : Value → String
  | .null => "null"
  | .bool b => if b then "true" else "false"
  | .int i => toString i
  | .real text => text
  | .text s => quoted s
  | .moment s => quoted s
  | _ => "null"

mutual

/-- A value on one line. -/
def compact : Value → String
  | .list items => "[" ++ compactItems items ++ "]"
  | .table fields => "\x7b" ++ compactFields fields ++ "\x7d"
  | v => scalarText v

/-- The items of a list, separated by commas. -/
def compactItems : List Value → String
  | [] => ""
  | [v] => compact v
  | v :: rest => compact v ++ "," ++ compactItems rest

/-- The fields of a table, separated by commas. -/
def compactFields : List (String × Value) → String
  | [] => ""
  | [(name, v)] => quoted name ++ ":" ++ compact v
  | (name, v) :: rest => quoted name ++ ":" ++ compact v ++ "," ++ compactFields rest

end

/-- The start of a line at a depth. -/
def newLine (depth : Nat) : String := "\n" ++ "".pushn ' ' (2 * depth)

mutual

/-- A value over several lines, indented to a depth. -/
def indented (depth : Nat) : Value → String
  | .list [] => "[]"
  | .table [] => "\x7b\x7d"
  | .list items => "[" ++ indentedItems (depth + 1) items ++ newLine depth ++ "]"
  | .table fields => "\x7b" ++ indentedFields (depth + 1) fields ++ newLine depth ++ "\x7d"
  | v => scalarText v

/-- The items of a list, each on its own line. -/
def indentedItems (depth : Nat) : List Value → String
  | [] => ""
  | [v] => newLine depth ++ indented depth v
  | v :: rest => newLine depth ++ indented depth v ++ "," ++ indentedItems depth rest

/-- The fields of a table, each on its own line. -/
def indentedFields (depth : Nat) : List (String × Value) → String
  | [] => ""
  | [(name, v)] => newLine depth ++ quoted name ++ ": " ++ indented depth v
  | (name, v) :: rest =>
    newLine depth ++ quoted name ++ ": " ++ indented depth v ++ "," ++ indentedFields depth rest

end

/-- A value over several lines. -/
def pretty (v : Value) : String := indented 0 v

end FileTriage.Json
