/-
Writing TOML.

A string is written in the first of four forms that needs no escape, and with escapes where none
does.  A table is written as its pairs, followed by the tables of its lists, each under a header
in double brackets.
-/
import FileTriage.Data.Toml.Number
import FileTriage.Data.Value

namespace FileTriage.Toml

/-! ## Strings -/

/-- The forms of a string: in double or in single quotes, and for either one or three of them. -/
inductive StringForm where
  | basic
  | literal
  | longBasic
  | longLiteral
deriving DecidableEq, Repr

namespace StringForm

/-- The quotes around a string. -/
def quotes : StringForm → String
  | basic => "\""
  | literal => "'"
  | longBasic => "\"\"\""
  | longLiteral => "'''"

/-- Whether the form can hold line ends. -/
def isLong : StringForm → Bool
  | longBasic | longLiteral => true
  | _ => false

end StringForm

/-- A control character other than a tab and a line end. -/
def needsEscape (c : Char) : Bool := isControl c && c ≠ '\n'

/-- Whether a character stands more often than twice in a row; `run` is how often it has come
last. -/
def runsLong (c : Char) (run : Nat) : List Char → Bool
  | [] => false
  | d :: rest =>
    if d = c then 2 ≤ run || runsLong c (run + 1) rest
    else runsLong c 0 rest

/-- The form that a text is written in. -/
def StringForm.of (text : List Char) : StringForm :=
  let plain := !text.any needsEscape
  if plain && !text.any (fun c => c = '\\' || c = '"' || c = '\n') then basic
  else if plain && !text.any (fun c => c = '\'' || c = '\n') then literal
  else if plain && !text.contains '\\' && !runsLong '"' 0 text then longBasic
  else if plain && !runsLong '\'' 0 text then longLiteral
  else if text.contains '\n' then longBasic
  else basic

/-- A hexadecimal digit in capitals. -/
def hexDigit (n : Nat) : Char := (Nat.digitChar n).toUpper

/-- What a character other than a double quote is written as between double quotes. -/
def escaped (c : Char) : List Char :=
  if c = '\x08' then ['\\', 'b']
  else if c = '\t' then ['\\', 't']
  else if c = '\n' then ['\\', 'n']
  else if c = '\x0C' then ['\\', 'f']
  else if c = '\r' then ['\\', 'r']
  else if c = '\\' then ['\\', '\\']
  else if isControl c then
    ['\\', 'u', '0', '0', hexDigit (c.toNat / 16), hexDigit (c.toNat % 16)]
  else [c]

/-- Characters as they are written between double quotes; `run` is how many double quotes have
come last without an escape.  Between three double quotes two of them may stand in a row, and
line ends stand for themselves. -/
def basicChars (long : Bool) (run : Nat) : List Char → List Char
  | [] => []
  | c :: rest =>
    if c = '"' then
      if long && run < 2 then '"' :: basicChars long (run + 1) rest
      else '\\' :: '"' :: basicChars long 0 rest
    else if c = '\n' && long then '\n' :: basicChars long 0 rest
    else escaped c ++ basicChars long 0 rest

/-- A text as a string in one of the forms.  The long forms start on a new line if the text has
more than one. -/
def writeIn (form : StringForm) (text : List Char) : String :=
  let start := if form.isLong && text.contains '\n' then "\n" else ""
  let inner := match form with
    | .basic => basicChars false 0 text
    | .longBasic => basicChars true 0 text
    | _ => text
  form.quotes ++ start ++ String.ofList inner ++ form.quotes

/-- A text as a string. -/
def quoted (text : String) : String := writeIn (.of text.toList) text.toList

/-- A key, in quotes unless all of its characters can go without. -/
def keyText (key : String) : String :=
  if !key.isEmpty && key.toList.all isBare then key else writeIn .basic key.toList

/-! ## Tables -/

/-- The text of a value on the line of its key.  Integers of more than 64 bits cannot be written,
and a list only where it has no item. -/
def inlineText? : Value → Option String
  | .bool b => some (if b then "true" else "false")
  | .int i => if isInteger i then some (toString i) else none
  | .text s => some (quoted s)
  | .list [] => some "[]"
  | _ => none

mutual

/-- The text of the fields of a table: its pairs, and the tables of its lists.  `path` is written
before the key in the headers of those. -/
def fieldTexts? (path : String) : List (String × Value) → Option (String × String)
  | [] => some ("", "")
  | (key, .list (item :: items)) :: rest => do
    let inner ← elementTexts? (path ++ keyText key) (item :: items)
    let (pairs, tables) ← fieldTexts? path rest
    some (pairs, inner ++ tables)
  | (key, v) :: rest => do
    let text ← inlineText? v
    let (pairs, tables) ← fieldTexts? path rest
    some (keyText key ++ " = " ++ text ++ "\n" ++ pairs, tables)

/-- The text of the tables of a list, each under a header. -/
def elementTexts? (header : String) : List Value → Option String
  | [] => some ""
  | .table fields :: rest => do
    let (pairs, tables) ← fieldTexts? (header ++ ".") fields
    let after ← elementTexts? header rest
    some ("\n[[" ++ header ++ "]]\n" ++ pairs ++ tables ++ after)
  | _ :: _ => none

end

/-- A table as TOML, if it can be written. -/
def write? (fields : List (String × Value)) : Option String :=
  (fieldTexts? "" fields).map fun (pairs, tables) => pairs ++ tables

end FileTriage.Toml
