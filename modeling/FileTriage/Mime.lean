/-
MIME types of files.

A scan asks a classifier for them.  The program's own classifier goes by the extension of a file;
which type an extension stands for is known elsewhere.
-/
import FileTriage.Text.Lower

namespace FileTriage

/-- Assigns MIME types to paths. -/
class MimeClassifier where
  classify (path : String) : Option String

namespace Mime

/-- The last component of a path, unless it is the way up. -/
def lastName (path : String) : Option String :=
  let parts := (path.splitToList (· = '/')).filter fun part => part ≠ "" && part ≠ "."
  match parts.getLast? with
  | some ".." => none
  | last => last

/-- What stands after the last dot of a name, unless that is its first character. -/
def extensionOfName (name : List Char) : Option (List Char) :=
  let before := name.reverse.dropWhile (· ≠ '.')
  if before.length ≤ 1 then none else some (name.reverse.takeWhile (· ≠ '.')).reverse

/-- The MIME type of a path by its extension, given the types that extensions in lower case stand
for. -/
def byExtension (typeOf : String → Option String) (path : String) : Option String := do
  let name ← lastName path
  let ending ← extensionOfName name.toList
  typeOf (Text.lower (String.ofList ending))

end Mime

end FileTriage
