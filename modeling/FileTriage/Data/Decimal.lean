/-
Which decimal numbers are too large for double precision.
-/
namespace FileTriage.Decimal

/-- Whether the number `digits * 10 ^ power` rounds to more than the greatest number of double
precision: it is at least that number and half of its last digit. -/
def isTooLarge (digits : Nat) (power : Int) : Bool :=
  let size : Int := (toString digits).length + power
  if digits = 0 ∨ size < 300 then false
  else if 312 < size then true
  else
    let bound : Nat := Nat.pow 2 1024 - Nat.pow 2 970
    match power with
    | .ofNat p => bound ≤ digits * Nat.pow 10 p
    | .negSucc p => bound * Nat.pow 10 (p + 1) ≤ digits

/-- The value of decimal digits; other characters count for nothing. -/
def value (digits : List Char) : Nat :=
  digits.foldl (fun n c => if c.isDigit then n * 10 + (c.toNat - '0'.toNat) else n) 0

end FileTriage.Decimal
