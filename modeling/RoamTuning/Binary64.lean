/-!
# Binary floating-point numbers

A number of the 64-bit binary format, kept exactly: a sign, a mantissa below
2^53 and an exponent of two, or an infinity, or not a number. Numbers come
from decimal notation by rounding to the nearest, a tie going to the even
mantissa.
-/

namespace RoamTuning

/-- A 64-bit binary floating-point number. A finite one is
    `mantissa * 2 ^ exponent` with a sign. -/
inductive Binary64 where
  | finite (negative : Bool) (mantissa : Nat) (exponent : Int)
  | infinite (negative : Bool)
  | nan
deriving DecidableEq, Repr

namespace Binary64

/-- The first number that is too great for a mantissa: two to the power of 53. -/
def mantissaBound : Nat := 9007199254740992

/-- The mantissa of a power of two: half the bound. -/
def leastFullMantissa : Nat := 4503599627370496

/-- The least exponent of two. -/
def exponentMin : Int := -1074

/-- The greatest exponent of two. -/
def exponentMax : Int := 971

/-- The quotient of two numbers, rounded to the nearest; a tie goes to the
    even neighbour. -/
def roundedQuotient (num den : Nat) : Nat :=
  let q := num / den
  let twice := 2 * (num % den)
  if twice < den ∨ (twice = den ∧ q % 2 = 0) then q else q + 1

/-- The fraction `num / den` divided by `2 ^ e`, as a numerator and a
    denominator. -/
def scaled (num den : Nat) (e : Int) : Nat × Nat :=
  if 0 ≤ e then (num, den * Nat.pow 2 e.toNat) else (num * Nat.pow 2 (-e).toNat, den)

/-- The exponent at which a positive fraction has a mantissa of at most 53
    bits, and of exactly 53 unless the exponent is the least one. -/
def exponentOf (num den : Nat) : Int :=
  let guess := max exponentMin ((Nat.log2 num : Int) - Nat.log2 den - 53)
  let (n, d) := scaled num den guess
  if n / d < mantissaBound then guess else guess + 1

/-- The number nearest to the positive fraction `num / den`. -/
def ofFraction (negative : Bool) (num den : Nat) : Binary64 :=
  let e := exponentOf num den
  let (n, d) := scaled num den e
  let m := roundedQuotient n d
  let (m, e) := if m = mantissaBound then (leastFullMantissa, e + 1) else (m, e)
  if exponentMax < e then .infinite negative else .finite negative m e

/-- The number nearest to `significand * 10 ^ exponent`. Beyond the range of
    the format the result is infinite or zero, which is decided on the number
    of digits. -/
def ofDecimal (negative : Bool) (significand : Nat) (exponent : Int) : Binary64 :=
  let places : Int := (Nat.toDigits 10 significand).length + exponent
  if significand = 0 ∨ places < -330 then .finite negative 0 exponentMin
  else if 310 < places then .infinite negative
  else if 0 ≤ exponent then ofFraction negative (significand * Nat.pow 10 exponent.toNat) 1
  else ofFraction negative significand (Nat.pow 10 (-exponent).toNat)

/-- The number without its fraction, if it is finite. -/
def toInt? : Binary64 → Option Int
  | .finite negative m e =>
    let n : Nat := if 0 ≤ e then m * Nat.pow 2 e.toNat else m / Nat.pow 2 (-e).toNat
    some (if negative then -(n : Int) else n)
  | _ => none

/-- The integer that a number is, if it is one. -/
def integral? (x : Binary64) : Option Int :=
  match x with
  | .finite _ m e => if 0 ≤ e ∨ m % Nat.pow 2 (-e).toNat = 0 then x.toInt? else none
  | _ => none

end Binary64

end RoamTuning
