/-
Searching a text for a regular expression.

A pattern is run on a set of places in the text and gives the set of places where it can end, so
nothing is tried twice and no repetition runs away.  Places are counted in characters from the
start of the text, and sets of places are ascending lists.
-/
import FileTriage.Regex.Pattern
import FileTriage.Unicode.Property

namespace FileTriage.Regex

open FileTriage.Unicode (CodePoints)

/-- The places of either of two ascending lists. -/
def mergePlaces : List Nat → List Nat → List Nat
  | [], ys => ys
  | xs, [] => xs
  | x :: xs, y :: ys =>
    if x < y then x :: mergePlaces xs (y :: ys)
    else if y < x then y :: mergePlaces (x :: xs) ys
    else x :: mergePlaces xs ys
termination_by xs ys => xs.length + ys.length

/-- The places of the first ascending list that are not in the second. -/
def dropPlaces : List Nat → List Nat → List Nat
  | [], _ => []
  | xs, [] => xs
  | x :: xs, y :: ys =>
    if x < y then x :: dropPlaces xs (y :: ys)
    else if y < x then dropPlaces (x :: xs) ys
    else dropPlaces xs ys
termination_by xs ys => xs.length + ys.length

/-- Whether a character belongs to a word. -/
def isWordChar (unicode : Bool) (c : Char) : Bool :=
  if unicode && c.toNat ≥ 0x80 then Unicode.wordPoints.contains c.toNat
  else c.isAlphanum || c = '_'

/-- Whether the place `i` of the text answers to the question. -/
def Look.holdsAt (text : Array Char) (i : Nat) (asked : Look) : Bool :=
  let before : Option Char := if i = 0 then none else text[i - 1]?
  let after : Option Char := text[i]?
  let wordBefore (unicode : Bool) := before.any (isWordChar unicode)
  let wordAfter (unicode : Bool) := after.any (isWordChar unicode)
  match asked with
  | .textStart => i = 0
  | .textEnd => i = text.size
  | .lineStart => i = 0 || before = some '\n'
  | .lineEnd => i = text.size || after = some '\n'
  | .crlfLineStart => i = 0 || before = some '\n' || (before = some '\r' && after ≠ some '\n')
  | .crlfLineEnd =>
    i = text.size || after = some '\r' || (after = some '\n' && before ≠ some '\r')
  | .wordBoundary u => wordBefore u != wordAfter u
  | .notWordBoundary u => wordBefore u == wordAfter u
  | .wordStart u => !wordBefore u && wordAfter u
  | .wordEnd u => wordBefore u && !wordAfter u
  | .wordStartHalf u => !wordBefore u
  | .wordEndHalf u => !wordAfter u

/-- Runs `f` a number of times, stopping early where it changes nothing any more. -/
def repeatExactly (f : List Nat → List Nat) : Nat → List Nat → List Nat
  | 0, places => places
  | n + 1, places =>
    let next := f places
    if next = places then places else repeatExactly f n next

/-- Runs `f` up to a number of times; `fresh` holds the places reached for the first time in the
last round, and `seen` all places reached so far. -/
def repeatUpTo (f : List Nat → List Nat) : Nat → List Nat → List Nat → List Nat
  | 0, seen, _ => seen
  | n + 1, seen, fresh =>
    let next := dropPlaces (f fresh) seen
    if next.isEmpty then seen else repeatUpTo f n (mergePlaces seen next) next

namespace Pattern

/-- The places where the pattern can end when it starts at one of the given places. -/
def ends (text : Array Char) : Pattern → List Nat → List Nat
  | empty, places => places
  | literal c, places => places.filterMap fun i => if text[i]? = some c then some (i + 1) else none
  | set s, places => places.filterMap fun i =>
      match text[i]? with
      | some c => if s.contains c.toNat then some (i + 1) else none
      | none => none
  | look asked, places => places.filter fun i => asked.holdsAt text i
  | times p least most, places =>
    let start := repeatExactly (p.ends text) least places
    -- Each round but the last reaches a new place, so the size of the text bounds the rounds.
    let rounds := match most with
      | some n => min (n - least) (text.size + 1)
      | none => text.size + 1
    repeatUpTo (p.ends text) rounds start start
  | capture p, places => p.ends text places
  | seq p q, places => q.ends text (p.ends text places)
  | alt p q, places => mergePlaces (p.ends text places) (q.ends text places)

/-- Whether the pattern matches somewhere in the text. -/
def foundIn (p : Pattern) (text : String) : Bool :=
  let chars := text.toList.toArray
  !(p.ends chars (List.range (chars.size + 1))).isEmpty

end Pattern

end FileTriage.Regex
