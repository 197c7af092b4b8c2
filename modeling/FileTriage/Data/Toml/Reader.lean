/-
Reading TOML.

A text is read as a list of statements, pairs and headers, which then build up one table.
-/
import FileTriage.Data.Toml.Number
import FileTriage.Data.Toml.Table

namespace FileTriage.Toml

/-- Skips blanks, comments and line ends; gives nothing where a comment does not end its line. -/
def skipLines (fuel : Nat) (text : List Char) : Option (List Char) :=
  match fuel with
  | 0 => some text
  | fuel + 1 =>
    match skipSpace text with
    | '#' :: rest => do
      let (_, rest) ← readNewline (skipComment ('#' :: rest))
      skipLines fuel rest
    | rest =>
      match readNewline rest with
      | some (_, rest) => skipLines fuel rest
      | none => some rest

/-- Reads a word that stands for a value. -/
def readWord (word : String) (v : Value) (text : List Char) : Option (Value × List Char) :=
  if word.toList.isPrefixOf text then some (v, text.drop word.length) else none

mutual

/-- Reads a value; `depth` is how many lists and tables are open around it. -/
def readValue (fuel depth : Nat) (text : List Char) : Option (Value × List Char) :=
  match fuel, text with
  | 0, _ => none
  | fuel + 1, text =>
    match text with
    | '"' :: _ | '\'' :: _ =>
      (readString text).map fun (cs, rest) => (.text (String.ofList cs), rest)
    | '[' :: rest =>
      if depthLimit ≤ depth + 1 then none
      else (readItems fuel (depth + 1) rest).map fun (items, rest) => (.list items, rest)
    | '{' :: rest =>
      if depthLimit ≤ depth + 1 then none
      else
        match skipSpace rest with
        | '}' :: rest => some (.table [], rest)
        | _ => do
          let (pairs, rest) ← readPairs fuel (depth + 1) rest
          let table ← inlineTable pairs
          some (table, rest)
    | 't' :: _ => readWord "true" (.bool true) text
    | 'f' :: _ => readWord "false" (.bool false) text
    | 'i' :: _ => readWord "inf" (.real "inf") text
    | 'n' :: _ => readWord "nan" (.real "nan") text
    | _ => readNumeric text

/-- Reads the items of a list up to its closing bracket; a comma may follow the last one. -/
def readItems (fuel depth : Nat) (text : List Char) : Option (List Value × List Char) :=
  match fuel with
  | 0 => none
  | fuel + 1 => do
    let text ← skipLines (text.length + 1) text
    match text with
    | ']' :: rest => some ([], rest)
    | _ =>
      let (v, rest) ← readValue fuel depth text
      let rest ← skipLines (rest.length + 1) rest
      match rest with
      | ',' :: rest =>
        let (items, rest) ← readItems fuel depth rest
        some (v :: items, rest)
      | ']' :: rest => some ([v], rest)
      | _ => none

/-- Reads the pairs of a table in braces up to its closing brace. -/
def readPairs (fuel depth : Nat) (text : List Char) :
    Option (List (List String × Value) × List Char) :=
  match fuel with
  | 0 => none
  | fuel + 1 => do
    let (key, rest) ← readKey text
    match rest with
    | '=' :: rest =>
      let (v, rest) ← readValue fuel depth (skipSpace rest)
      match skipSpace rest with
      | ',' :: rest =>
        let (pairs, rest) ← readPairs fuel depth rest
        some ((key, v) :: pairs, rest)
      | '}' :: rest => some ([(key, v)], rest)
      | _ => none
    | _ => none

end

/-- Reads a header after its opening bracket. -/
def readHeader (text : List Char) : Option (Statement × List Char) :=
  match text with
  | '[' :: rest => do
    let (key, rest) ← readKey rest
    match rest with
    | ']' :: ']' :: rest => some (.element key, rest)
    | _ => none
  | _ => do
    let (key, rest) ← readKey text
    match rest with
    | ']' :: rest => some (.header key, rest)
    | _ => none

/-- Reads a key and its value. -/
def readPair (text : List Char) : Option (Statement × List Char) := do
  let (key, rest) ← readKey text
  match rest with
  | '=' :: rest =>
    let (v, rest) ← readValue (2 * rest.length + 2) 0 (skipSpace rest)
    some (.pair key v, rest)
  | _ => none

/-- Reads the statements of a text, one on a line. -/
def readStatements (fuel : Nat) (text : List Char) : Option (List Statement) :=
  match fuel with
  | 0 => none
  | fuel + 1 =>
    match skipSpace text with
    | [] => some []
    | '#' :: rest => do
      let (_, rest) ← readLineEnd ('#' :: rest)
      readStatements fuel rest
    | '\n' :: rest => readStatements fuel rest
    | '\r' :: '\n' :: rest => readStatements fuel rest
    | text => do
      let (statement, rest) ← match text with
        | '[' :: rest => readHeader rest
        | _ => readPair text
      let (_, rest) ← readLineEnd rest
      let statements ← readStatements fuel rest
      some (statement :: statements)

/-- The table that a text describes, if it is TOML; a mark of byte order may come first. -/
def read (text : String) : Option Value :=
  let chars := match text.toList with
    | '\uFEFF' :: rest => rest
    | chars => chars
  (readStatements (chars.length + 1) chars).bind assemble

end FileTriage.Toml
