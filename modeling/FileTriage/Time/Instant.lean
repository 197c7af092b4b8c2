/-
Points in time.

An instant counts seconds from the start of 1970 in universal time, and nanoseconds within the
second; a leap second is written as more than a thousand million nanoseconds within the second
before it.  Instants lie within the years -262143 to 262142, and `Instant.daysBefore?` has no
answer where it would leave them.
-/
import FileTriage.Text.Blank
import FileTriage.Time.Calendar

namespace FileTriage

/-- The seconds of a day. -/
def secondsPerDay : Nat := 86400

/-- A point in time. -/
structure Instant where
  seconds : Int
  nanos : Nat
deriving DecidableEq, Repr, Inhabited

namespace Instant

/-- The first second that an instant can have. -/
def earliestSecond : Int := (Calendar.Date.number ⟨-262143, 1, 1⟩) * secondsPerDay

/-- The last second that an instant can have. -/
def latestSecond : Int := (Calendar.Date.number ⟨262143, 1, 1⟩) * secondsPerDay - 1

/-- The start of 1970. -/
def epoch : Instant := ⟨0, 0⟩

/-- Whether one instant is not later than another. -/
def notAfter (a b : Instant) : Bool :=
  a.seconds < b.seconds || (a.seconds = b.seconds && a.nanos ≤ b.nanos)

/-- The instant so many days earlier, where the calendar reaches that far.  What starts in a leap
second starts at the second after it. -/
def daysBefore? (t : Instant) (days : Nat) : Option Instant :=
  if days = 0 then some t
  else
    let whole : Instant :=
      if 1000000000 ≤ t.nanos then ⟨t.seconds + 1, t.nanos - 1000000000⟩ else t
    let seconds := whole.seconds - days * secondsPerDay
    if seconds < earliestSecond then none else some ⟨seconds, whole.nanos⟩

/-! ## Text -/

/-- A number with at least so many digits. -/
def padded (width n : Nat) : String :=
  let digits := toString n
  "".pushn '0' (width - digits.length) ++ digits

/-- The fraction of a second, with as few digits out of 0, 3, 6 and 9 as are exact. -/
def fractionText (nanos : Nat) : String :=
  if nanos = 0 then ""
  else if nanos % 1000000 = 0 then "." ++ padded 3 (nanos / 1000000)
  else if nanos % 1000 = 0 then "." ++ padded 6 (nanos / 1000)
  else "." ++ padded 9 nanos

/-- The year of a date: four digits, and a sign where they are not enough. -/
def yearText (year : Int) : String :=
  if 0 ≤ year ∧ year ≤ 9999 then padded 4 year.toNat
  else (if year < 0 then "-" else "+") ++ padded 4 year.natAbs

/-- An instant as RFC 3339 text in universal time. -/
def text (t : Instant) : String :=
  let day := t.seconds / secondsPerDay
  let inDay := (t.seconds % secondsPerDay).toNat
  let date := Calendar.Date.ofNumber day
  let leap := if 1000000000 ≤ t.nanos then 1 else 0
  let nanos := t.nanos - leap * 1000000000
  yearText date.year ++ "-" ++ padded 2 date.month ++ "-" ++ padded 2 date.day ++ "T" ++
    padded 2 (inDay / 3600) ++ ":" ++ padded 2 (inDay / 60 % 60) ++ ":" ++
    padded 2 (inDay % 60 + leap) ++ fractionText nanos ++ "Z"

/-! ## Reading

Blanks may stand before each number and mark, and one blank or the letter `T` between the date and
the time. -/

/-- A reader of the beginning of a text: what it found and the rest. -/
abbrev Reader (α : Type) := List Char → Option (α × List Char)

/-- Reads between one and `most` decimal digits after blanks. -/
def readNumber (most : Nat) : Reader Nat := fun text =>
  let text := text.dropWhile Text.isBlank
  let digits := (text.take most).takeWhile Char.isDigit
  if digits.isEmpty then none
  else some (digits.foldl (fun n c => n * 10 + (c.toNat - '0'.toNat)) 0, text.drop digits.length)

/-- Reads a mark after blanks. -/
def readMark (mark : Char) : Reader Unit := fun text =>
  match text.dropWhile Text.isBlank with
  | c :: rest => if c = mark then some ((), rest) else none
  | [] => none

/-- Reads a year: four digits, or any number of them after a sign. -/
def readYear : Reader Int := fun text =>
  match text.dropWhile Text.isBlank with
  | '-' :: rest =>
    if rest.head?.any Char.isDigit then (readNumber rest.length rest).map fun (n, r) => (-(n : Int), r)
    else none
  | '+' :: rest =>
    if rest.head?.any Char.isDigit then (readNumber rest.length rest).map fun (n, r) => ((n : Int), r)
    else none
  | text => (readNumber 4 text).map fun (n, r) => ((n : Int), r)

/-- Reads the fraction of a second; digits after the ninth do not count. -/
def readFraction : Reader Nat := fun text =>
  match text with
  | '.' :: rest =>
    let digits := rest.takeWhile Char.isDigit
    if digits.isEmpty then none
    else
      let kept := digits.take 9
      let value := kept.foldl (fun n c => n * 10 + (c.toNat - '0'.toNat)) 0
      some (value * Nat.pow 10 (9 - kept.length), rest.drop digits.length)
  | _ => some (0, text)

/-- Reads the distance from universal time in seconds. -/
def readOffset : Reader Int := fun text =>
  let two (text : List Char) : Option (Nat × List Char) :=
    match text with
    | a :: b :: rest =>
      if a.isDigit && b.isDigit then
        some ((a.toNat - '0'.toNat) * 10 + (b.toNat - '0'.toNat), rest)
      else none
    | _ => none
  let signed (sign : Int) (rest : List Char) : Option (Int × List Char) := do
    let (hours, rest) ← two rest
    let (minutes, rest) ← two (rest.dropWhile fun c => c = ':' || Text.isBlank c)
    if 60 ≤ minutes then none else some (sign * (hours * 3600 + minutes * 60), rest)
  match text with
  | 'Z' :: rest | 'z' :: rest => some (0, rest)
  | '+' :: rest => signed 1 rest
  | '-' :: rest => signed (-1) rest
  | '\u2212' :: rest => signed (-1) rest
  | u :: t :: c :: rest =>
    if [u.toLower, t.toLower, c.toLower] = ['u', 't', 'c'] then some (0, rest) else none
  | _ => none

/-- The instant that RFC 3339 text stands for. -/
def ofText? (text : String) : Option Instant := do
  let (year, rest) ← readYear text.toList
  let (_, rest) ← readMark '-' rest
  let (month, rest) ← readNumber 2 rest
  let (_, rest) ← readMark '-' rest
  let (day, rest) ← readNumber 2 rest
  let rest ← match rest with
    | 'T' :: rest | 't' :: rest | ' ' :: rest => some rest
    | _ => none
  let (hour, rest) ← readNumber 2 rest
  let (_, rest) ← readMark ':' rest
  let (minute, rest) ← readNumber 2 rest
  let (_, rest) ← readMark ':' rest
  let (second, rest) ← readNumber 2 rest
  let (fraction, rest) ← readFraction rest
  let (offset, rest) ← readOffset (rest.dropWhile Text.isBlank)
  let date : Calendar.Date := ⟨year, month, day⟩
  if !(rest.all Text.isBlank) || !date.exists || 24 ≤ hour || 60 ≤ minute || 61 ≤ second
      || secondsPerDay ≤ offset.natAbs then none
  else
    let leap := if second = 60 then 1 else 0
    let seconds : Int :=
      date.number * secondsPerDay + (hour * 3600 + minute * 60 + (second - leap) : Nat) - offset
    if seconds < earliestSecond ∨ latestSecond < seconds then none
    else some ⟨seconds, fraction + leap * 1000000000⟩

end Instant

end FileTriage
