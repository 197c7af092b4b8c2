/-
How large a regular expression is as a program.

A pattern is compiled to states over the bytes of UTF-8 text, and patterns whose states take more
than `sizeLimit` bytes are refused.  The size is computed without building the states: a
repetition counts its part as often as it would be copied, and a set counts the byte sequences
that spell its members.  `\w` alone takes about 45 thousand bytes.
-/
import FileTriage.Regex.Pattern

namespace FileTriage.Regex

open FileTriage.Unicode (CodePoints)

/-- The most that the states of a pattern may take. -/
def sizeLimit : Nat := 10 * 1024 * 1024

/-- What a state takes, beside its list of branches. -/
def stateSize : Nat := 32

/-- What one branch to another state takes. -/
def branchSize : Nat := 4

/-- What one range of bytes in a state takes. -/
def rangeSize : Nat := 8

/-- Cuts a range of code points into ranges that share the length of their UTF-8 form and run
through whole blocks of continuation bytes. -/
def alignedRanges : (fuel : Nat) → Nat → Nat → List (Nat × Nat)
  | 0, lo, hi => [(lo, hi)]
  | fuel + 1, lo, hi =>
    if hi < lo then []
    else if lo < 0xE000 ∧ 0xD7FF < hi then
      alignedRanges fuel lo 0xD7FF ++ alignedRanges fuel 0xE000 hi
    else
      let lengthEnd := [0x7F, 0x7FF, 0xFFFF].find? fun m => lo ≤ m ∧ m < hi
      match lengthEnd with
      | some m => alignedRanges fuel lo m ++ alignedRanges fuel (m + 1) hi
      | none =>
        if hi ≤ 0x7F then [(lo, hi)]
        else
          let cut := [0x40, 0x1000, 0x40000].findSome? fun block =>
            if lo / block = hi / block then none
            else if lo % block ≠ 0 then some (lo / block * block + block)
            else if hi % block ≠ block - 1 then some (hi / block * block)
            else none
          match cut with
          | some c => alignedRanges fuel lo (c - 1) ++ alignedRanges fuel c hi
          | none => [(lo, hi)]

/-- The ranges of bytes that spell an aligned range, one after the other. -/
def byteRanges (lo hi : Nat) : List (UInt8 × UInt8) :=
  (String.utf8EncodeChar (Char.ofNat lo)).zip (String.utf8EncodeChar (Char.ofNat hi))

/-- How many different beginnings a list of sequences in ascending order has: those of a sequence
that it shares with the one before are not counted again. -/
def countBeginnings (before : List (UInt8 × UInt8)) : List (List (UInt8 × UInt8)) → Nat
  | [] => 0
  | s :: rest =>
    let shared := ((s.zip before).takeWhile fun (a, b) => a == b).length
    s.length - shared + countBeginnings s rest

/-- What the states of a set take. -/
def setSize (s : CodePoints) : Nat :=
  if s.isEmpty then stateSize
  else if s.isAscii then 2 * stateSize + rangeSize * s.ranges.length
  else
    let sequences := s.ranges.flatMap fun (lo, hi) =>
      (alignedRanges 64 lo hi).map fun (a, b) => byteRanges a b
    2 * stateSize + branchSize * sequences.length + stateSize * countBeginnings [] sequences

/-- What the states of a choice take beside those of its branches, counted once for each choice
however many branches it has. -/
def choiceSize : Pattern → Nat
  | .alt _ _ => 2 * stateSize + branchSize
  | _ => 0

/-- What the states of a pattern take; a choice counts `choiceSize` in addition. -/
def innerSize : Pattern → Nat
  | .empty => stateSize
  | .literal c => c.utf8Size * stateSize
  | .set s => setSize s
  | .look _ => stateSize
  | .capture p => innerSize p + choiceSize p + 2 * stateSize
  | .seq p q => innerSize p + choiceSize p + (innerSize q + choiceSize q)
  | .alt p q => innerSize p + innerSize q + branchSize
  | .times p least most =>
    let one := innerSize p + choiceSize p
    let split := stateSize + 2 * branchSize
    let copies (n : Nat) : Nat := if n = 0 then stateSize else n * one
    match most with
    | none =>
      if least = 0 ∧ p.nullable then one + 2 * split + stateSize
      else max least 1 * one + split
    | some most =>
      if least = most then copies least
      else if least = 0 ∧ most = 1 then one + split + stateSize
      else copies least + stateSize + (most - least) * (split + one)

/-- What the whole program of a pattern takes: the search before it and the mark of a match. -/
def Pattern.size (p : Pattern) : Nat := innerSize p + choiceSize p + 208

end FileTriage.Regex
