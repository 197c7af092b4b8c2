/-
Strings and keys of TOML.

Every reader takes the text from some place on and gives what it found and the rest, or nothing
where the text is not well formed.
-/
import FileTriage.Unicode.CodePoints

namespace FileTriage.Toml

/-- A reader of the beginning of a text. -/
abbrev Reader (α : Type) := List Char → Option (α × List Char)

/-- A blank or a tab. -/
def isSpace (c : Char) : Bool := c = ' ' || c = '\t'

/-- A control character that may not stand in a comment or a string. -/
def isControl (c : Char) : Bool := (c < ' ' && c ≠ '\t') || c = '\x7F'

/-- Skips blanks and tabs. -/
def skipSpace (text : List Char) : List Char := text.dropWhile isSpace

/-- Reads the end of a line. -/
def readNewline : Reader Unit
  | '\n' :: rest => some ((), rest)
  | '\r' :: '\n' :: rest => some ((), rest)
  | _ => none

/-- Skips a comment if there is one, up to the end of its line. -/
def skipComment : List Char → List Char
  | '#' :: rest => rest.dropWhile fun c => !isControl c
  | text => text

/-- Reads what may follow a statement on its line: blanks, a comment and the end of the line or of
the text. -/
def readLineEnd : Reader Unit := fun text =>
  match skipComment (skipSpace text) with
  | [] => some ((), [])
  | rest => readNewline rest

/-! ## Strings -/

/-- The character that a short escape stands for. -/
def shortEscape? : Char → Option Char
  | 'b' => some '\x08'
  | 't' => some '\t'
  | 'n' => some '\n'
  | 'f' => some '\x0C'
  | 'r' => some '\r'
  | '"' => some '"'
  | '\\' => some '\\'
  | _ => none

/-- The character of a number in hexadecimal digits. -/
def hexChar? (digits : List Char) : Option Char := do
  let values ← digits.mapM Unicode.hexDigit?
  let n := values.foldl (fun n d => n * 16 + d) 0
  if n.isValidChar then some (Char.ofNat n) else none

/-- Adds a character to what a reader of characters has found. -/
def consTo (c : Char) (found : Option (List Char × List Char)) :
    Option (List Char × List Char) :=
  found.map fun (cs, rest) => (c :: cs, rest)

/-- Reads the characters of a string in double quotes up to its closing quote. -/
def readBasic : Reader (List Char)
  | [] => none
  | '"' :: rest => some ([], rest)
  | '\\' :: 'u' :: a :: b :: c :: d :: rest =>
    match hexChar? [a, b, c, d] with
    | some x => consTo x (readBasic rest)
    | none => none
  | '\\' :: 'U' :: a :: b :: c :: d :: e :: f :: g :: h :: rest =>
    match hexChar? [a, b, c, d, e, f, g, h] with
    | some x => consTo x (readBasic rest)
    | none => none
  | '\\' :: e :: rest =>
    match shortEscape? e with
    | some x => consTo x (readBasic rest)
    | none => none
  | c :: rest => if isControl c || c = '\\' then none else consTo c (readBasic rest)

/-- Whether a backslash before this text ends its line, so that the line goes on at the next
character that is no blank. -/
def continuesLine (text : List Char) : Bool := (readNewline (skipSpace text)).isSome

/-- Reads the characters of a string in three double quotes up to its closing quotes, which may
follow one or two quotes that belong to the string.  `joining` is true after a backslash at the
end of a line, until the next character that is no blank. -/
def readLongBasic (joining : Bool) : Reader (List Char)
  | [] => none
  | '"' :: '"' :: '"' :: '"' :: '"' :: rest => some (['"', '"'], rest)
  | '"' :: '"' :: '"' :: '"' :: rest => some (['"'], rest)
  | '"' :: '"' :: '"' :: rest => some ([], rest)
  | '\r' :: '\n' :: rest =>
    if joining then readLongBasic true rest else consTo '\n' (readLongBasic false rest)
  | '\\' :: 'u' :: a :: b :: c :: d :: rest =>
    match hexChar? [a, b, c, d] with
    | some x => consTo x (readLongBasic false rest)
    | none => none
  | '\\' :: 'U' :: a :: b :: c :: d :: e :: f :: g :: h :: rest =>
    match hexChar? [a, b, c, d, e, f, g, h] with
    | some x => consTo x (readLongBasic false rest)
    | none => none
  | '\\' :: e :: rest =>
    if continuesLine (e :: rest) then readLongBasic true (e :: rest)
    else match shortEscape? e with
      | some x => consTo x (readLongBasic false rest)
      | none => none
  | c :: rest =>
    if joining && (isSpace c || c = '\n') then readLongBasic true rest
    else if c = '\\' || (isControl c && c ≠ '\n') then none
    else consTo c (readLongBasic false rest)

/-- Reads the characters of a string in single quotes up to its closing quote. -/
def readLiteral : Reader (List Char)
  | [] => none
  | '\'' :: rest => some ([], rest)
  | c :: rest => if isControl c then none else consTo c (readLiteral rest)

/-- Reads the characters of a string in three single quotes up to its closing quotes. -/
def readLongLiteral : Reader (List Char)
  | [] => none
  | '\'' :: '\'' :: '\'' :: '\'' :: '\'' :: rest => some (['\'', '\''], rest)
  | '\'' :: '\'' :: '\'' :: '\'' :: rest => some (['\''], rest)
  | '\'' :: '\'' :: '\'' :: rest => some ([], rest)
  | '\r' :: '\n' :: rest => consTo '\n' (readLongLiteral rest)
  | c :: rest => if isControl c && c ≠ '\n' then none else consTo c (readLongLiteral rest)

/-- The text after the end of a line, if one comes first. -/
def skipNewline (text : List Char) : List Char :=
  match readNewline text with
  | some (_, rest) => rest
  | none => text

/-- Reads a string in any of its four forms. -/
def readString : Reader (List Char)
  | '"' :: '"' :: '"' :: rest => readLongBasic false (skipNewline rest)
  | '\'' :: '\'' :: '\'' :: rest => readLongLiteral (skipNewline rest)
  | '"' :: rest => readBasic rest
  | '\'' :: rest => readLiteral rest
  | _ => none

/-! ## Keys -/

/-- The characters of keys that need no quotes. -/
def isBare (c : Char) : Bool := c.isAlphanum || c = '-' || c = '_'

/-- Reads one part of a key. -/
def readSimpleKey : Reader String
  | '"' :: rest => (readBasic rest).map fun (cs, rest) => (String.ofList cs, rest)
  | '\'' :: rest => (readLiteral rest).map fun (cs, rest) => (String.ofList cs, rest)
  | text =>
    let name := text.takeWhile isBare
    if name.isEmpty then none else some (String.ofList name, text.dropWhile isBare)

/-- How many parts a key may have, and how deeply values may be nested. -/
def depthLimit : Nat := 80

/-- Reads the parts of a key that dots separate. -/
def readKeyParts (fuel : Nat) : Reader (List String) := fun text =>
  match fuel, readSimpleKey (skipSpace text) with
  | fuel + 1, some (part, rest) =>
    match skipSpace rest with
    | '.' :: rest => (readKeyParts fuel rest).map fun (parts, rest) => (part :: parts, rest)
    | rest => some ([part], rest)
  | _, _ => none

/-- Reads a key with the blanks around it. -/
def readKey : Reader (List String) := fun text => readKeyParts (depthLimit - 1) text

end FileTriage.Toml
