/-
Paths as text.

Paths are written with `/` between their components; a backslash means the same and is replaced.
-/
import FileTriage.Text.Lower

namespace FileTriage.Path

/-- Writes `/` for every backslash. -/
def unifySeparators (path : List Char) : List Char :=
  path.map fun c => if c = '\\' then '/' else c

/-- What stands after the last separator. -/
def lastComponent (path : List Char) : List Char :=
  (path.reverse.takeWhile (· ≠ '/')).reverse

/-- What stands before the last component, the separator included. -/
def beforeLast (path : List Char) : List Char :=
  (path.reverse.dropWhile (· ≠ '/')).reverse

/-- Text without a character at its end, however often it stands there. -/
def dropTrailing (c : Char) (text : List Char) : List Char :=
  (text.reverse.dropWhile (· = c)).reverse

/-- Text without a character at its ends. -/
def dropEnds (c : Char) (text : List Char) : List Char :=
  dropTrailing c (text.dropWhile (· = c))

/-- A path with one separator at each end and `/` between its components. -/
def normalizeChars (path : List Char) : List Char :=
  match dropEnds '/' (unifySeparators path) with
  | [] => ['/']
  | inner => '/' :: inner ++ ['/']

/-- A path with one separator at each end and `/` between its components. -/
def normalize (path : String) : String := String.ofList (normalizeChars path.toList)

/-- What stands after the last dot of a name, as it is written.  A dot at the start or at the end
of the name has nothing after it that counts. -/
def extensionChars (name : List Char) : List Char :=
  let after := (name.reverse.takeWhile (· ≠ '.')).reverse
  let before := (name.reverse.dropWhile (· ≠ '.')).reverse
  if before.length ≤ 1 then [] else after

/-- The extension of a name in lower case, without its dot; empty when it has none. -/
def extensionOf (name : String) : String :=
  Text.lower (String.ofList (extensionChars name.toList))

end FileTriage.Path
