/-
Sets of code points, kept as ranges.

A set is a list of inclusive ranges in ascending order that neither overlap nor touch.  The tables
of this folder are written as text: hexadecimal ranges such as `41-5A`, separated by blanks.
-/
namespace FileTriage.Unicode

/-- A set of code points as inclusive ranges in ascending order, none touching the next. -/
structure CodePoints where
  ranges : List (Nat × Nat)
deriving DecidableEq, Repr, Inhabited

namespace CodePoints

/-- The greatest code point. -/
def last : Nat := 0x10FFFF

/-- The set with no member. -/
def empty : CodePoints := ⟨[]⟩

/-- The set of all code points. -/
def all : CodePoints := ⟨[(0, last)]⟩

/-- The code points from `lo` to `hi`. -/
def range (lo hi : Nat) : CodePoints := if lo ≤ hi then ⟨[(lo, hi)]⟩ else empty

/-- The set of one code point. -/
def singleton (c : Nat) : CodePoints := ⟨[(c, c)]⟩

/-- Membership in ascending ranges: the search ends at the first range past the code point. -/
def memRanges (c : Nat) : List (Nat × Nat) → Bool
  | [] => false
  | (lo, hi) :: rest => if c < lo then false else if c ≤ hi then true else memRanges c rest

/-- Whether a code point belongs to the set. -/
def contains (s : CodePoints) (c : Nat) : Bool := memRanges c s.ranges

/-- Joins ranges that overlap or touch; `lo` and `hi` are the range being grown. -/
def joinRanges (lo hi : Nat) : List (Nat × Nat) → List (Nat × Nat)
  | [] => [(lo, hi)]
  | (a, b) :: rest =>
    if a ≤ hi + 1 then joinRanges lo (max hi b) rest else (lo, hi) :: joinRanges a b rest

/-- The set of any list of ranges. -/
def ofRanges (ranges : List (Nat × Nat)) : CodePoints :=
  match ranges.mergeSort (fun x y => x.1 ≤ y.1) with
  | [] => empty
  | (lo, hi) :: rest => ⟨joinRanges lo hi rest⟩

/-- The members of either set. -/
def union (s t : CodePoints) : CodePoints := ofRanges (s.ranges ++ t.ranges)

/-- The members of any of the sets. -/
def unions (sets : List CodePoints) : CodePoints := ofRanges (sets.flatMap (·.ranges))

/-- The gaps between ascending ranges, from `start` on. -/
def gaps (start : Nat) : List (Nat × Nat) → List (Nat × Nat)
  | [] => if start ≤ last then [(start, last)] else []
  | (lo, hi) :: rest => if start < lo then (start, lo - 1) :: gaps (hi + 1) rest else gaps (hi + 1) rest

/-- The code points outside the set. -/
def compl (s : CodePoints) : CodePoints := ⟨gaps 0 s.ranges⟩

/-- The members of both sets. -/
def inter (s t : CodePoints) : CodePoints := (s.compl.union t.compl).compl

/-- The members of the first set that are not in the second. -/
def diff (s t : CodePoints) : CodePoints := s.inter t.compl

/-- The members of exactly one of the sets. -/
def symmDiff (s t : CodePoints) : CodePoints := (s.union t).diff (s.inter t)

/-- Whether the set has no member. -/
def isEmpty (s : CodePoints) : Bool := s.ranges.isEmpty

/-- Whether all members are ASCII. -/
def isAscii (s : CodePoints) : Bool := s.ranges.all fun r => r.2 < 0x80

/-- The only member of a set with one member. -/
def single? (s : CodePoints) : Option Nat :=
  match s.ranges with
  | [(lo, hi)] => if lo = hi then some lo else none
  | _ => none

end CodePoints

/-- The value of a hexadecimal digit; other characters have none. -/
def hexDigit? (c : Char) : Option Nat :=
  if '0' ≤ c ∧ c ≤ '9' then some (c.toNat - '0'.toNat)
  else if 'a' ≤ c ∧ c ≤ 'f' then some (c.toNat - 'a'.toNat + 10)
  else if 'A' ≤ c ∧ c ≤ 'F' then some (c.toNat - 'A'.toNat + 10)
  else none

/-- The words of a table's text: what stands between blanks and line ends. -/
def words (text : String) : List String :=
  (text.splitToList fun c => c = ' ' || c = '\n').filter fun w => !w.isEmpty

/-- The value of hexadecimal text; characters that are not digits count for nothing. -/
def hexValue (text : String) : Nat :=
  text.toList.foldl (fun n c => match hexDigit? c with
    | some d => n * 16 + d
    | none => n) 0

/-- The set that a table's text describes. -/
def CodePoints.ofText (text : String) : CodePoints :=
  .ofRanges <| (words text).map fun w =>
    match w.splitOn "-" with
    | [lo, hi] => (hexValue lo, hexValue hi)
    | _ => (hexValue w, hexValue w)

/-- Whether a list of names separated by blanks has the name. -/
def hasName (names name : String) : Bool := (words names).contains name

end FileTriage.Unicode
