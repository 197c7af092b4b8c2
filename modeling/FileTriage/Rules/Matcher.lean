/-
How the text of a pattern is compared with the text of a file.

Literal patterns are compared in lower case; regular expressions ignore case by themselves and may
match anywhere.
-/
import FileTriage.Path
import FileTriage.Rules.Kind

namespace FileTriage

/-- Whether one list of characters occurs in another without a gap. -/
def Text.occursIn (pattern : List Char) : List Char → Bool
  | [] => pattern.isEmpty
  | c :: rest => pattern.isPrefixOf (c :: rest) || Text.occursIn pattern rest

/-- A pattern made ready for comparison; literal texts are in lower case. -/
inductive TextMatcher where
  | equals (text : String)
  | contains (text : String)
  | anyOf (texts : List String)
  | regex (expression : Regex)
deriving DecidableEq, Repr

namespace TextMatcher

/-- The matcher of a regular expression. -/
def ofRegex (pattern : String) : Except ConstructionError TextMatcher :=
  match Regex.compile pattern with
  | .ok expression => .ok (regex expression)
  | .error fault => .error (.invalidRegex pattern fault)

/-- Whether the text of a file fits. -/
def accepts (m : TextMatcher) (subject : String) : Bool :=
  match m with
  | equals text => Text.lower subject = text
  | contains text => Text.occursIn text.toList (Text.lower subject).toList
  | anyOf texts => texts.contains (Text.lower subject)
  | regex expression => expression.isMatch subject

end TextMatcher

/-- Which part of a file's name a condition looks at. -/
inductive NameScope where
  | fullName
  | extension
deriving DecidableEq, Repr

/-- The alternatives in a list of extensions separated by commas: without blanks around them and
dots before them, in lower case, the empty ones left out. -/
def extensionAlternatives (pattern : String) : List String :=
  ((pattern.splitToList (· = ',')).map fun part =>
    Text.lower (String.ofList ((Text.trimChars Text.isBlank part.toList).dropWhile (· = '.')))).filter
      fun part => !part.isEmpty

/-- The matcher of a name condition. -/
def NameScope.matcher (scope : NameScope) (pattern : String) (isRegex : Bool) :
    Except ConstructionError TextMatcher :=
  if Text.allBlank pattern then .error (.emptyPattern .name)
  else if isRegex then TextMatcher.ofRegex pattern
  else
    match scope with
    | fullName => .ok (.equals (Text.lower pattern))
    | extension =>
      match extensionAlternatives pattern with
      | [] => .error (.emptyPattern .extension)
      | alternatives => .ok (.anyOf alternatives)

/-- The matcher of a parent path condition. -/
def parentPathMatcher (pattern : String) (isRegex : Bool) : Except ConstructionError TextMatcher :=
  if Text.allBlank pattern then .error (.emptyPattern .parentPath)
  else if isRegex then TextMatcher.ofRegex pattern
  else .ok (.contains (Text.lower (Path.normalize pattern)))

end FileTriage
