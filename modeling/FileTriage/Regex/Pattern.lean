/-
Regular expressions as trees.

A pattern is built by the functions of this file, which keep it simple: a set of one code point is
a literal, an alternative between sets is one set, and what can match nothing but the empty text
is never repeated more than once.
-/
import FileTriage.Unicode.CodePoints

namespace FileTriage.Regex

open FileTriage.Unicode (CodePoints)

/-- What a place in the text can be asked for.  `unicode` says whose words are meant: those of all
scripts, or of ASCII letters, digits and the underscore. -/
inductive Look where
  | textStart
  | textEnd
  | lineStart
  | lineEnd
  | crlfLineStart
  | crlfLineEnd
  | wordBoundary (unicode : Bool)
  | notWordBoundary (unicode : Bool)
  | wordStart (unicode : Bool)
  | wordEnd (unicode : Bool)
  | wordStartHalf (unicode : Bool)
  | wordEndHalf (unicode : Bool)
deriving DecidableEq, Repr

/-- A regular expression.  How much a repetition prefers to take is not kept, because it does not
change which texts match. -/
inductive Pattern where
  | empty
  | literal (c : Char)
  | set (points : CodePoints)
  | look (at_ : Look)
  | times (p : Pattern) (least : Nat) (most : Option Nat)
  | capture (p : Pattern)
  | seq (p q : Pattern)
  | alt (p q : Pattern)
deriving DecidableEq, Repr, Inhabited

namespace Pattern

/-- Whether the pattern can match nothing but the empty text. -/
def onlyEmpty : Pattern → Bool
  | empty => true
  | literal _ => false
  | set _ => false
  | look _ => true
  | times p _ _ => p.onlyEmpty
  | capture p => p.onlyEmpty
  | seq p q => p.onlyEmpty && q.onlyEmpty
  | alt p q => p.onlyEmpty && q.onlyEmpty

/-- Whether the pattern can match the empty text somewhere. -/
def nullable : Pattern → Bool
  | empty => true
  | literal _ => false
  | set s => s.isEmpty
  | look _ => true
  | times p least _ => least = 0 || p.nullable
  | capture p => p.nullable
  | seq p q => p.nullable && q.nullable
  | alt p q => p.nullable || q.nullable

/-- The pattern of a set. -/
def ofPoints (s : CodePoints) : Pattern :=
  match s.single? with
  | some c => literal (Char.ofNat c)
  | none => set s

/-- The code points that a pattern of one character stands for. -/
def points? : Pattern → Option CodePoints
  | literal c => some (.singleton c.toNat)
  | set s => some s
  | _ => none

/-- A pattern repeated from `least` to `most` times. -/
def repeated (p : Pattern) (least : Nat) (most : Option Nat) : Pattern :=
  let (least, most) :=
    if p.onlyEmpty then (min least 1, some (match most with
      | some n => min n 1
      | none => 1))
    else (least, most)
  if most = some 0 then empty
  else if least = 1 ∧ most = some 1 then p
  else times p least most

/-- The patterns one after the other. -/
def concat : List Pattern → Pattern
  | [] => empty
  | [p] => p
  | p :: rest => seq p (concat rest)

/-- Any of the patterns; there is at least one. -/
def choice : List Pattern → Pattern
  | [] => empty
  | [p] => p
  | p :: rest => alt p (choice rest)

/-- Any of the patterns, as one set where all are single characters. -/
def anyOf (ps : List Pattern) : Pattern :=
  match ps with
  | [p] => p
  | _ =>
    match ps.mapM points? with
    | some sets => ofPoints (.unions sets)
    | none => choice ps

end Pattern

end FileTriage.Regex
