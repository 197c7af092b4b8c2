/-
Regular expressions, as conditions use them: they ignore case, know the characters of all scripts
and may match anywhere in a text.

`Regex.compile` reads a pattern and refuses one that is malformed, nested too deeply or too large;
`Regex.isMatch` searches a text for it.
-/
import FileTriage.Regex.Matching
import FileTriage.Regex.Parser
import FileTriage.Regex.Size

namespace FileTriage

/-- A regular expression that is ready for searching. -/
structure Regex where
  pattern : Regex.Pattern
deriving DecidableEq, Repr, Inhabited

namespace Regex

/-- The regular expression that a text describes, or why it describes none. -/
def compile (text : String) : Except Fault Regex := do
  let pattern ← Pattern.parse text
  if sizeLimit < pattern.size then .error .tooLarge else .ok ⟨pattern⟩

/-- Whether the expression matches somewhere in the text. -/
def isMatch (r : Regex) (text : String) : Bool := r.pattern.foundIn text

end Regex

end FileTriage
