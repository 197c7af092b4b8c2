/-
Numbers, dates and times of TOML.
-/
import FileTriage.Data.Decimal
import FileTriage.Data.Toml.Text
import FileTriage.Data.Value
import FileTriage.Time.Calendar

namespace FileTriage.Toml

/-- Reads digits with single underscores between them, after a first digit has been read. -/
def readMoreDigits (isDigit : Char → Bool) : Reader (List Char)
  | '_' :: d :: rest => if isDigit d then consTo d (readMoreDigits isDigit rest) else none
  | ['_'] => none
  | d :: rest => if isDigit d then consTo d (readMoreDigits isDigit rest) else some ([], d :: rest)
  | [] => some ([], [])

/-- Reads at least one digit, and more with single underscores between them. -/
def readDigits (isDigit : Char → Bool) : Reader (List Char)
  | d :: rest => if isDigit d then consTo d (readMoreDigits isDigit rest) else none
  | [] => none

/-- Reads a decimal integer without its sign; no zero comes before other digits. -/
def readWhole : Reader (List Char)
  | '0' :: rest => some (['0'], rest)
  | text => readDigits Char.isDigit text

/-- The text that a reader has taken. -/
def taken (text rest : List Char) : String := String.ofList (text.take (text.length - rest.length))

/-- Reads an exponent after its letter. -/
def readExponent (text : List Char) : Option (Int × List Char) :=
  let (negative, digits) := match text with
    | '-' :: rest => (true, rest)
    | '+' :: rest => (false, rest)
    | _ => (false, text)
  (readDigits Char.isDigit digits).map fun (digits, rest) =>
    let n : Int := Decimal.value digits
    (if negative then -n else n, rest)

/-- Whether an integer has a place in TOML: it has 64 bits with a sign. -/
def isInteger (i : Int) : Bool := -9223372036854775808 ≤ i && i ≤ 9223372036854775807

/-- The value of a number that is not an integer; one that is too large is refused. -/
def realValue (negative : Bool) (whole fraction : List Char) (exponent : Int)
    (literal : String) : Option Value :=
  let power := exponent - fraction.length
  if !negative && Decimal.isTooLarge (Decimal.value (whole ++ fraction)) power then none
  else some (.real literal)

/-- Reads what follows the sign of a decimal number. -/
def readDecimal (negative : Bool) (start text : List Char) : Option (Value × List Char) := do
  let (whole, rest) ← readWhole text
  match rest with
  | '.' :: rest =>
    let (fraction, rest) ← readDigits Char.isDigit rest
    let (exponent, rest) ← match rest with
      | 'e' :: rest | 'E' :: rest => readExponent rest
      | _ => some (0, rest)
    (realValue negative whole fraction exponent (taken start rest)).map (·, rest)
  | 'e' :: after | 'E' :: after =>
    let (exponent, rest) ← readExponent after
    (realValue negative whole [] exponent (taken start rest)).map (·, rest)
  | _ =>
    let n : Int := Decimal.value whole
    let n := if negative then -n else n
    if isInteger n then some (.int n, rest) else none

/-- Reads an integer in a base that is a power of two, after its prefix. -/
def readBased (base : Nat) (text : List Char) : Option (Value × List Char) := do
  let isDigit (c : Char) : Bool := (Unicode.hexDigit? c).any (· < base)
  let (digits, rest) ← readDigits isDigit text
  let n := digits.foldl (fun n c => n * base + (Unicode.hexDigit? c).getD 0) 0
  if isInteger n then some (.int n, rest) else none

/-! ## Dates and times -/

/-- Reads exactly so many decimal digits. -/
def readFixed (count : Nat) (text : List Char) : Option (Nat × List Char) :=
  let digits := (text.take count).takeWhile Char.isDigit
  if digits.length = count then some (Decimal.value digits, text.drop count) else none

/-- Reads a number of two digits below a bound. -/
def readTwo (bound : Nat) (text : List Char) : Option (Nat × List Char) := do
  let (n, rest) ← readFixed 2 text
  if n < bound then some (n, rest) else none

/-- Reads what follows the hour and its colon in a time. -/
def readMinutes (text : List Char) : Option (List Char) := do
  let (_, rest) ← readTwo 60 text
  match rest with
  | ':' :: rest =>
    let (_, rest) ← readTwo 61 rest
    match rest with
    | '.' :: rest =>
      let digits := rest.takeWhile Char.isDigit
      if digits.isEmpty then none else some (rest.dropWhile Char.isDigit)
    | _ => some rest
  | _ => none

/-- Reads the hour and the colon that a time starts with. -/
def readHour (text : List Char) : Option (List Char) :=
  match readTwo 24 text with
  | some (_, ':' :: rest) => some rest
  | _ => none

/-- Reads the distance from universal time, if there is one. -/
def readZone (text : List Char) : Option (List Char) :=
  match text with
  | 'Z' :: rest | 'z' :: rest => some rest
  | '+' :: rest | '-' :: rest => do
    let rest ← readHour rest
    let (_, rest) ← readTwo 60 rest
    some rest
  | _ => some text

/-- Reads what follows the year and its hyphen in a date, with the time that may follow it. -/
def readDate (year : Nat) (start text : List Char) : Option (Value × List Char) := do
  let (month, rest) ← readFixed 2 text
  match rest with
  | '-' :: rest =>
    let (day, rest) ← readFixed 2 rest
    if !(Calendar.Date.exists ⟨year, month, day⟩) then none
    else
      let time := match rest with
        | 'T' :: time | 't' :: time | ' ' :: time => readHour time
        | _ => none
      match time with
      | none => some (.moment (taken start rest), rest)
      | some minutes =>
        let rest ← readMinutes minutes
        let rest ← readZone rest
        some (.moment (taken start rest), rest)
  | _ => none

/-- Reads a value that starts with a sign or a digit. -/
def readNumeric (text : List Char) : Option (Value × List Char) :=
  match readFixed 4 text with
  | some (year, '-' :: rest) => readDate year text rest
  | _ =>
    match readHour text with
    | some minutes => (readMinutes minutes).map fun rest => (.moment (taken text rest), rest)
    | none =>
      let signed (negative : Bool) (rest : List Char) : Option (Value × List Char) :=
        match rest with
        | 'i' :: 'n' :: 'f' :: rest | 'n' :: 'a' :: 'n' :: rest =>
          some (.real (taken text rest), rest)
        | _ => readDecimal negative text rest
      match text with
      | '0' :: 'x' :: rest => readBased 16 rest
      | '0' :: 'o' :: rest => readBased 8 rest
      | '0' :: 'b' :: rest => readBased 2 rest
      | '-' :: rest => signed true rest
      | '+' :: rest => signed false rest
      | _ => readDecimal false text text

end FileTriage.Toml
