/-
Lower case of text.

Each character has its own lower case, with two exceptions: a dotted capital I becomes two
characters, and a capital sigma becomes the final sigma at the end of a word.  A sigma ends a word
when a cased letter comes before it and none after it, looking through marks and the like.
-/
import FileTriage.Unicode.Case
import FileTriage.Unicode.Property

namespace FileTriage.Text

/-- Whether the first character that is not case-ignorable is cased. -/
def meetsCased (text : List Char) : Bool :=
  match text.dropWhile fun c => Unicode.caseIgnorable.contains c.toNat with
  | [] => false
  | c :: _ => Unicode.cased.contains c.toNat

/-- The lower case of a character between its neighbours; `before` is read backwards. -/
def lowerChar (before : List Char) (c : Char) (after : List Char) : List Char :=
  if c = 'Σ' then [if meetsCased before && !meetsCased after then 'ς' else 'σ']
  else if c = 'İ' then ['i', '\u0307']
  else [Char.ofNat (Unicode.lowerCase c.toNat)]

/-- The lower case of characters; `before` is what came before them, backwards. -/
def lowerFrom (before : List Char) : List Char → List Char
  | [] => []
  | c :: rest => lowerChar before c rest ++ lowerFrom (c :: before) rest

/-- Text in lower case. -/
def lower (text : String) : String := String.ofList (lowerFrom [] text.toList)

end FileTriage.Text
