/-
Patterns with wildcards.

`?` stands for one character, `*` for any number of them, and brackets for one of several
characters; all of them may stand for a separator.  `**` stands for whole components of a path and
must be one itself.
-/
namespace FileTriage

/-- What a part of a pattern stands for. -/
inductive GlobToken where
  | char (c : Char)
  | anyChar
  | anySequence
  | anyComponents
  /-- A character in one of the ranges, or in none of them. -/
  | oneOf (inside : Bool) (ranges : List (Char × Char))
deriving DecidableEq, Repr

/-- What is wrong with a pattern. -/
inductive GlobFault where
  | tooManyStars
  | partOfComponent
  | openRange
deriving DecidableEq, Repr

/-- The wording of a fault. -/
def GlobFault.message : GlobFault → String
  | tooManyStars => "wildcards are either regular `*` or recursive `**`"
  | partOfComponent => "recursive wildcards must form a single path component"
  | openRange => "invalid range pattern"

/-- A fault at a position, which counts characters. -/
structure GlobError where
  position : Nat
  fault : GlobFault
deriving DecidableEq, Repr

/-- The wording of an error. -/
def GlobError.message (e : GlobError) : String :=
  s!"Pattern syntax error near position {e.position}: {e.fault.message}"

/-- A pattern that has been read. -/
structure Glob where
  tokens : List GlobToken
deriving DecidableEq, Repr

namespace Glob

/-! ## Reading -/

/-- The ranges between brackets; a single character is a range of one. -/
def readRanges : List Char → List (Char × Char)
  | a :: '-' :: b :: rest => (a, b) :: readRanges rest
  | a :: rest => (a, a) :: readRanges rest
  | [] => []

/-- Reads what follows an opening bracket: the token, and how many characters it takes up with the
closing bracket.  The first character belongs to the ranges even if it is a closing bracket. -/
def readBracket : List Char → Option (GlobToken × Nat)
  | '!' :: first :: rest =>
    if rest.contains ']' then
      let others := rest.takeWhile (· ≠ ']')
      some (.oneOf false (readRanges (first :: others)), others.length + 3)
    else none
  | '!' :: [] => none
  | first :: rest =>
    if rest.contains ']' then
      let others := rest.takeWhile (· ≠ ']')
      some (.oneOf true (readRanges (first :: others)), others.length + 2)
    else none
  | [] => none

/-- Reads a pattern from a position on; `before` is the character before it. -/
def parseFrom (position : Nat) (before : Option Char) (text : List Char) :
    Except GlobError (List GlobToken) :=
  match text with
  | [] => .ok []
  | '?' :: rest => (parseFrom (position + 1) (some '?') rest).map (.anyChar :: ·)
  | '*' :: '*' :: '*' :: _ => .error ⟨position + 2, .tooManyStars⟩
  | '*' :: '*' :: rest =>
    if before = none ∨ before = some '/' then
      match rest with
      | [] => .ok [.anyComponents]
      | c :: rest =>
        if c = '/' then (parseFrom (position + 3) (some '/') rest).map (.anyComponents :: ·)
        else .error ⟨position + 2, .partOfComponent⟩
    else .error ⟨position - 1, .partOfComponent⟩
  | '*' :: rest => (parseFrom (position + 1) (some '*') rest).map (.anySequence :: ·)
  | '[' :: rest =>
    match readBracket rest with
    | some (token, length) =>
      (parseFrom (position + 1 + length) (some ']') (rest.drop length)).map (token :: ·)
    | none => .error ⟨position, .openRange⟩
  | c :: rest => (parseFrom (position + 1) (some c) rest).map (.char c :: ·)
termination_by text.length
decreasing_by all_goals simp_wf <;> omega

/-- The pattern that a text describes, or why it describes none. -/
def parse (text : String) : Except GlobError Glob := (parseFrom 0 none text.toList).map Glob.mk

/-! ## Matching -/

/-- Whether a token that stands for one character stands for this one. -/
def GlobToken.fits (token : GlobToken) (c : Char) : Bool :=
  match token with
  | .char d => c = d
  | .anyChar => true
  | .oneOf inside ranges => (ranges.any fun r => r.1 ≤ c && c ≤ r.2) = inside
  | _ => false

/-- Whether `rest` accepts some end of a text. -/
def someSuffix (rest : List Char → Bool) : List Char → Bool
  | [] => rest []
  | c :: text => rest (c :: text) || someSuffix rest text

/-- Whether `rest` accepts some end of a text that starts after a separator, or nothing at all. -/
def someComponents (rest : List Char → Bool) : List Char → Bool
  | [] => rest []
  | c :: text => (c = '/' && rest text) || someComponents rest text

/-- Whether tokens stand for a whole text. -/
def fit : List GlobToken → List Char → Bool
  | [], text => text.isEmpty
  | .anySequence :: tokens, text => someSuffix (fit tokens) text
  | .anyComponents :: tokens, text => fit tokens text || someComponents (fit tokens) text
  | token :: tokens, c :: text => GlobToken.fits token c && fit tokens text
  | _ :: _, [] => false

/-- Whether the pattern stands for a text. -/
def isMatch (g : Glob) (text : String) : Bool := fit g.tokens text.toList

end Glob

end FileTriage
