/-
Reading JSON.

The reader works on bytes and never fails: what is malformed becomes an unreadable value, and
reading stops there.  A string with bytes that are not UTF-8, with half of a surrogate pair, or a
number too large to represent can be passed over but not used, and so can a value that is nested
more than `maxDepth` deep.
-/
import FileTriage.Data.Decimal
import FileTriage.Data.Value
import FileTriage.Text.Utf8

namespace FileTriage.Json

/-- How deeply lists and tables may be nested, so that what is in them can be used. -/
def maxDepth : Nat := 127

/-- What reading the beginning of a text has given: a value, and the rest of the text unless
reading has stopped. -/
abbrev Reading := Value × Option (List UInt8)

/-- The reading of malformed text. -/
def malformed : Reading := (.unreadable .malformed, none)

/-- Whether a byte is white space between the parts of a text. -/
def isSpace (b : UInt8) : Bool := b = 0x20 || b = 0x09 || b = 0x0A || b = 0x0D

/-- Skips white space. -/
def skipSpace (bytes : List UInt8) : List UInt8 := bytes.dropWhile isSpace

/-- The byte of an ASCII character. -/
def byte (c : Char) : UInt8 := c.toNat.toUInt8

/-- Whether a byte is a decimal digit. -/
def isDigit (b : UInt8) : Bool := byte '0' ≤ b && b ≤ byte '9'

/-! ## Strings -/

/-- The value of a hexadecimal digit. -/
def hexDigit? (b : UInt8) : Option Nat :=
  if isDigit b then some (b.toNat - 0x30)
  else if byte 'a' ≤ b ∧ b ≤ byte 'f' then some (b.toNat - 0x61 + 10)
  else if byte 'A' ≤ b ∧ b ≤ byte 'F' then some (b.toNat - 0x41 + 10)
  else none

/-- Reads four hexadecimal digits. -/
def readHex4 : List UInt8 → Option (Nat × List UInt8)
  | a :: b :: c :: d :: rest => do
    let a ← hexDigit? a
    let b ← hexDigit? b
    let c ← hexDigit? c
    let d ← hexDigit? d
    some (((a * 16 + b) * 16 + c) * 16 + d, rest)
  | _ => none

/-- Reads the second half of a surrogate pair after its first half. -/
def readLowHalf : List UInt8 → Option (Nat × List UInt8)
  | b :: u :: rest =>
    if b = byte '\\' ∧ u = byte 'u' then
      match readHex4 rest with
      | some (low, rest) => if 0xDC00 ≤ low ∧ low ≤ 0xDFFF then some (low, rest) else none
      | none => none
    else none
  | _ => none

/-- The character that a short escape stands for. -/
def shortEscape? (b : UInt8) : Option UInt8 :=
  if b = byte '"' ∨ b = byte '\\' ∨ b = byte '/' then some b
  else if b = byte 'b' then some 0x08
  else if b = byte 'f' then some 0x0C
  else if b = byte 'n' then some 0x0A
  else if b = byte 'r' then some 0x0D
  else if b = byte 't' then some 0x09
  else none

/-- Reads a string after its opening quote.  `read` holds the bytes so far, backwards, and `good`
says that they can be used.  Gives the text, if it can be used, and the rest of the input; none
for a string that is malformed. -/
def readString (fuel : Nat) (read : List UInt8) (good : Bool) (bytes : List UInt8) :
    Option (Option String × List UInt8) :=
  match fuel, bytes with
  | fuel + 1, b :: rest =>
    if b = byte '"' then
      match good, Text.Utf8.decode read.reverse with
      | true, .ok text => some (some text, rest)
      | _, _ => some (none, rest)
    else if b = byte '\\' then
      match rest with
      | [] => none
      | e :: rest =>
        if e = byte 'u' then
          match readHex4 rest with
          | none => none
          | some (n, rest) =>
            let push (n : Nat) : List UInt8 :=
              (String.utf8EncodeChar (Char.ofNat n)).reverse ++ read
            if 0xD800 ≤ n ∧ n ≤ 0xDBFF then
              match readLowHalf rest with
              | some (low, rest) =>
                readString fuel (push (0x10000 + (n - 0xD800) * 0x400 + (low - 0xDC00))) good rest
              | none => readString fuel read false rest
            else if 0xDC00 ≤ n ∧ n ≤ 0xDFFF then readString fuel read false rest
            else readString fuel (push n) good rest
        else
          match shortEscape? e with
          | some c => readString fuel (c :: read) good rest
          | none => none
    else if b < 0x20 then none
    else readString fuel (b :: read) good rest
  | _, _ => none

/-! ## Numbers -/

/-- The value of decimal digits. -/
def decimalValue (digits : List UInt8) : Nat :=
  digits.foldl (fun n b => n * 10 + (b.toNat - 0x30)) 0

/-- The text of ASCII bytes. -/
def asciiText (bytes : List UInt8) : String :=
  String.ofList (bytes.map fun b => Char.ofNat b.toNat)

/-- The value of a number of which the parts have been read. -/
def numberValue (negative : Bool) (whole fraction : List UInt8) (exponent : Option Int)
    (literal : List UInt8) : Value :=
  let n := decimalValue whole
  let isInteger := fraction.isEmpty && exponent.isNone
  if isInteger && !negative && n < UInt64.size then .int n
  else if isInteger && negative && n ≠ 0 && n ≤ UInt64.size / 2 then .int (-n)
  else if Decimal.isTooLarge (decimalValue (whole ++ fraction)) (exponent.getD 0 - fraction.length) then
    .unreadable .unusable
  else .real (asciiText literal)

/-- Reads a number. -/
def readNumber (bytes : List UInt8) : Reading :=
  let negative := bytes.head? = some (byte '-')
  let afterSign := if negative then bytes.drop 1 else bytes
  let whole := afterSign.takeWhile isDigit
  let rest := afterSign.dropWhile isDigit
  if whole.isEmpty || (whole.head? = some (byte '0') && 1 < whole.length) then malformed
  else
    let (fraction, rest, pointed) :=
      match rest with
      | b :: after =>
        if b = byte '.' then (after.takeWhile isDigit, after.dropWhile isDigit, true)
        else ([], rest, false)
      | [] => ([], rest, false)
    if pointed && fraction.isEmpty then malformed
    else
      let finish (exponent : Option Int) (rest : List UInt8) : Reading :=
        let literal := bytes.take (bytes.length - rest.length)
        (numberValue negative whole fraction exponent literal, some rest)
      match rest with
      | b :: after =>
        if b = byte 'e' ∨ b = byte 'E' then
          let sign := after.head?
          let after := if sign = some (byte '+') ∨ sign = some (byte '-') then after.drop 1 else after
          let digits := after.takeWhile isDigit
          if digits.isEmpty then malformed
          else
            let n : Int := decimalValue digits
            finish (some (if sign = some (byte '-') then -n else n)) (after.dropWhile isDigit)
        else finish none rest
      | [] => finish none rest

/-! ## Values -/

/-- Reads a word such as `null`. -/
def readWord (word : String) (value : Value) (bytes : List UInt8) : Reading :=
  let letters := word.toList.map byte
  if letters.isPrefixOf bytes then (value, some (bytes.drop letters.length)) else malformed

/-- A list or table at some depth; one that is too deep can only be passed over. -/
def atDepth (depth : Nat) (value : Value) (rest : Option (List UInt8)) : Reading :=
  if depth ≤ maxDepth then (value, rest)
  else (.unreadable (if rest.isSome then .unusable else .malformed), rest)

mutual

/-- Reads a value; `depth` is the depth of a list or table that starts here. -/
def readValue (fuel depth : Nat) (bytes : List UInt8) : Reading :=
  match fuel, skipSpace bytes with
  | fuel + 1, b :: rest =>
    if b = byte '"' then
      match readString (rest.length + 1) [] true rest with
      | some (some text, rest) => (.text text, some rest)
      | some (none, rest) => (.unreadable .unusable, some rest)
      | none => malformed
    else if b = byte '{' then
      let (fields, rest) := readFields fuel (depth + 1) true rest
      atDepth depth (.table fields) rest
    else if b = byte '[' then
      let (items, rest) := readItems fuel (depth + 1) true rest
      atDepth depth (.list items) rest
    else if b = byte 'n' then readWord "null" .null (b :: rest)
    else if b = byte 't' then readWord "true" (.bool true) (b :: rest)
    else if b = byte 'f' then readWord "false" (.bool false) (b :: rest)
    else if b = byte '-' || isDigit b then readNumber (b :: rest)
    else malformed
  | _, _ => malformed

/-- Reads the items of a list up to its closing bracket; `first` until one has been read. -/
def readItems (fuel depth : Nat) (first : Bool) (bytes : List UInt8) :
    List Value × Option (List UInt8) :=
  let stop : List Value × Option (List UInt8) := ([.unreadable .malformed], none)
  match fuel, skipSpace bytes with
  | fuel + 1, b :: rest =>
    if b = byte ']' then ([], some rest)
    else if !first && b ≠ byte ',' then stop
    else
      let next := if first then b :: rest else skipSpace rest
      if next.head? = some (byte ']') then stop
      else
        match readValue fuel depth next with
        | (value, some rest) =>
          let (items, rest) := readItems fuel depth false rest
          (value :: items, rest)
        | (value, none) => ([value], none)
  | _, _ => stop

/-- Reads the fields of a table up to its closing brace; `first` until one has been read. -/
def readFields (fuel depth : Nat) (first : Bool) (bytes : List UInt8) :
    List (String × Value) × Option (List UInt8) :=
  let stop (name : String) : List (String × Value) × Option (List UInt8) :=
    ([(name, .unreadable .malformed)], none)
  match fuel, skipSpace bytes with
  | fuel + 1, b :: rest =>
    if b = byte '}' then ([], some rest)
    else if !first && b ≠ byte ',' then stop ""
    else
      match if first then b :: rest else skipSpace rest with
      | q :: rest =>
        if q ≠ byte '"' then stop ""
        else
          match readString (rest.length + 1) [] true rest with
          | none => stop ""
          | some (name, rest) =>
            match skipSpace rest with
            | colon :: rest =>
              if colon ≠ byte ':' then stop (name.getD "")
              else
                let (value, rest) := readValue fuel depth rest
                let field : String × Value := match name with
                  | some name => (name, value)
                  | none => ("", if value.canSkip then .unreadable .unusableName else value)
                match rest with
                | some rest =>
                  let (fields, rest) := readFields fuel depth false rest
                  (field :: fields, rest)
                | none => ([field], none)
            | [] => stop (name.getD "")
      | [] => stop ""
  | _, _ => stop ""

end

/-- A whole text: its value, and whether nothing but white space follows it. -/
structure Document where
  value : Value
  complete : Bool

/-- Reads a whole text. -/
def read (bytes : List UInt8) : Document :=
  let (value, rest) := readValue (3 * bytes.length + 3) 1 bytes
  ⟨value, match rest with
    | some rest => (skipSpace rest).isEmpty
    | none => false⟩

end FileTriage.Json
