/-
What the reader of regular expressions is made of: the causes for refusing one, the flags, and the
small rules for single characters and escapes.
-/
import FileTriage.Regex.Pattern
import FileTriage.Text.Blank
import FileTriage.Unicode.Case
import FileTriage.Unicode.Property
import FileTriage.Unicode.Script

namespace FileTriage.Regex

open FileTriage.Unicode (CodePoints)

/-- Why a text is not a regular expression. -/
inductive Fault where
  | unclosedGroup
  | unopenedGroup
  | badGroupName
  | duplicateGroupName
  | lookAround
  | unclosedClass
  | badClassRange
  | badClassItem
  | badFlags
  | badEscape
  | backReference
  | badHex
  | unknownProperty
  | nothingToRepeat
  | badCount
  | notUnicode
  | notUtf8
  | tooDeep
  | tooLarge
deriving DecidableEq, Repr

/-- The flags in force at a place of a regular expression. -/
structure Flags where
  caseInsensitive : Bool := true
  multiLine : Bool := false
  dotAll : Bool := false
  swapGreed : Bool := false
  unicode : Bool := true
  crlf : Bool := false
  spaced : Bool := false
deriving DecidableEq, Repr

/-- Turns one flag on or off; none for a letter that is no flag. -/
def Flags.set? (f : Flags) (letter : Char) (on : Bool) : Option Flags :=
  match letter with
  | 'i' => some { f with caseInsensitive := on }
  | 'm' => some { f with multiLine := on }
  | 's' => some { f with dotAll := on }
  | 'U' => some { f with swapGreed := on }
  | 'u' => some { f with unicode := on }
  | 'R' => some { f with crlf := on }
  | 'x' => some { f with spaced := on }
  | _ => none

/-- Skips white space and comments; `comment` says whether a comment is open. -/
def skipComments : (comment : Bool) → List Char → List Char
  | _, [] => []
  | false, c :: rest =>
    if Text.isBlank c then skipComments false rest
    else if c = '#' then skipComments true rest
    else c :: rest
  | true, c :: rest => skipComments (c != '\n') rest

/-- Skips what the flag for spaced patterns allows between the parts of a pattern. -/
def Flags.skip (f : Flags) (text : List Char) : List Char :=
  if f.spaced then skipComments false text else text

/-- The characters that mean something outside classes or inside them, and may be escaped. -/
def isMeta (c : Char) : Bool := "\\.+*?()|[]\x7b\x7d^$#&-~".toList.contains c

/-- The characters that stand for themselves after a backslash. -/
def isEscapable (c : Char) : Bool :=
  isMeta c || (c.toNat < 0x80 && !c.isAlphanum && c ≠ '<' && c ≠ '>')

/-- Whether a character may stand in the name of a group. -/
def isGroupNameChar (first : Bool) (c : Char) : Bool :=
  c = '_' || Unicode.alphabetic.contains c.toNat ||
    (!first && (c = '.' || c = '[' || c = ']' || (Unicode.Category.union "nd nl no").contains c.toNat))

/-- The set of a pair of ASCII letters, for ranges as for single characters. -/
def closeAsciiCase (s : CodePoints) : CodePoints :=
  let letters := (List.range 26).flatMap fun i =>
    (if s.contains (0x41 + i) then [(0x61 + i, 0x61 + i)] else []) ++
      (if s.contains (0x61 + i) then [(0x41 + i, 0x41 + i)] else [])
  .ofRanges (s.ranges ++ letters)

/-- Closes a class under case where the flags ask for it, and then negates it.  A negated class of
bytes would match bytes that are not UTF-8. -/
def Flags.finishClass (f : Flags) (negated : Bool) (s : CodePoints) : Except Fault CodePoints :=
  if f.unicode then
    let s := if f.caseInsensitive then s.closeCase else s
    .ok (if negated then s.compl else s)
  else if negated then .error .notUtf8
  else .ok (if f.caseInsensitive then closeAsciiCase s else s)

/-- The digits, spaces or word characters that `\d`, `\s` and `\w` stand for. -/
def Flags.shorthandClass (f : Flags) (letter : Char) : Except Fault CodePoints :=
  let negated := letter.isUpper
  let points :=
    match letter.toLower with
    | 'd' => if f.unicode then Unicode.decimalDigit else .range 0x30 0x39
    | 's' => if f.unicode then Unicode.whiteSpace else .ofRanges [(0x9, 0xD), (0x20, 0x20)]
    | _ =>
      if f.unicode then Unicode.wordPoints
      else .ofRanges [(0x30, 0x39), (0x41, 0x5A), (0x5F, 0x5F), (0x61, 0x7A)]
  if !negated then .ok points
  else if f.unicode then .ok points.compl
  else .error .notUtf8

/-- The ranges of a named ASCII class such as `alpha`. -/
def asciiClass? : String → Option (List (Nat × Nat))
  | "alnum" => some [(0x30, 0x39), (0x41, 0x5A), (0x61, 0x7A)]
  | "alpha" => some [(0x41, 0x5A), (0x61, 0x7A)]
  | "ascii" => some [(0, 0x7F)]
  | "blank" => some [(0x9, 0x9), (0x20, 0x20)]
  | "cntrl" => some [(0, 0x1F), (0x7F, 0x7F)]
  | "digit" => some [(0x30, 0x39)]
  | "graph" => some [(0x21, 0x7E)]
  | "lower" => some [(0x61, 0x7A)]
  | "print" => some [(0x20, 0x7E)]
  | "punct" => some [(0x21, 0x2F), (0x3A, 0x40), (0x5B, 0x60), (0x7B, 0x7E)]
  | "space" => some [(0x9, 0xD), (0x20, 0x20)]
  | "upper" => some [(0x41, 0x5A)]
  | "word" => some [(0x30, 0x39), (0x41, 0x5A), (0x5F, 0x5F), (0x61, 0x7A)]
  | "xdigit" => some [(0x30, 0x39), (0x41, 0x46), (0x61, 0x66)]
  | _ => none

/-- A property's name without the marks, blanks and case that do not count.  A leading `is` does
not count either, except in the one short name that needs it. -/
def looseName (name : String) : String :=
  let strip (cs : List Char) : List Char :=
    (cs.filter fun c => c ≠ ' ' && c ≠ '_' && c ≠ '-' && c.toNat < 0x80).map Char.toLower
  match name.toList with
  | i :: s :: rest =>
    if i.toLower = 'i' ∧ s.toLower = 's' then
      if strip rest = ['c'] then "isc" else String.ofList (strip rest)
    else String.ofList (strip (i :: s :: rest))
  | short => String.ofList (strip short)

/-- The general category of a loose name, with the three that are no categories proper. -/
def category? (name : String) : Option CodePoints :=
  match name with
  | "any" => some .all
  | "assigned" => (Unicode.Category.find? "cn").map CodePoints.compl
  | "ascii" => some (.range 0 0x7F)
  | _ => Unicode.Category.find? name

/-- The code points of a property that is asked for by one name: a binary property, a category or
a script.  The short names of three categories are also short names of properties. -/
def propertyByName? (name : String) : Option CodePoints :=
  let loose := looseName name
  let binary := if loose = "cf" || loose = "sc" || loose = "lc" then none
    else Unicode.Property.find? loose
  match binary with
  | some points => some points
  | none =>
    match category? loose with
    | some points => some points
    | none => Unicode.Script.find? loose

/-- The code points for which a property has a value. -/
def propertyByValue? (name value : String) : Option CodePoints :=
  let value := looseName value
  match looseName name with
  | "gc" | "generalcategory" => category? value
  | "sc" | "script" => Unicode.Script.find? value
  | "scx" | "scriptextensions" => Unicode.Script.findExtended? value
  | _ => none

/-- The code points that the text between the braces of a property class stands for; the flag says
whether the text itself negates it. -/
def propertyClass? (text : List Char) : Option (Bool × CodePoints) :=
  let parts (separator : String) := (String.ofList text).splitOn separator
  let value (separator : String) (negated : Bool) : Option (Bool × CodePoints) :=
    match parts separator with
    | name :: rest => (propertyByValue? name (separator.intercalate rest)).map (negated, ·)
    | [] => none
  if 1 < (parts "!=").length then value "!=" true
  else if 1 < (parts ":").length then value ":" false
  else if 1 < (parts "=").length then value "=" false
  else (propertyByName? (String.ofList text)).map (false, ·)

/-- What one escape or plain character stands for. -/
inductive Atom where
  /-- A character; `byte` when it was written as two hexadecimal digits. -/
  | char (c : Char) (byte : Bool)
  | set (points : CodePoints)
  | look (asked : Look)
  | dot

end FileTriage.Regex
