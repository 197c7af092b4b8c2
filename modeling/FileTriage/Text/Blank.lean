/-
White space.

`isBlank` is the Unicode property White_Space; names and patterns that hold nothing else count
as empty, and `trim` takes such characters off both ends of a text.
-/
namespace FileTriage.Text

/-- Whether a character is white space. -/
def isBlank (c : Char) : Bool :=
  ('\t' ≤ c && c ≤ '\r') || c = ' ' || c = '\u0085' || c = '\u00A0' || c = '\u1680' ||
    ('\u2000' ≤ c && c ≤ '\u200A') || c = '\u2028' || c = '\u2029' || c = '\u202F' ||
    c = '\u205F' || c = '\u3000'

/-- Drops the characters of a class from both ends. -/
def trimChars (drop : Char → Bool) (text : List Char) : List Char :=
  ((text.dropWhile drop).reverse.dropWhile drop).reverse

/-- Text without the white space at its ends. -/
def trim (text : String) : String := String.ofList (trimChars isBlank text.toList)

/-- Whether text holds nothing but white space. -/
def allBlank (text : String) : Bool := text.toList.all isBlank

end FileTriage.Text
