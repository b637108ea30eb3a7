import RoamTuning.Binary64
import RoamTuning.Numeral

/-!
# Decimal notation of floating-point numbers

A number is written with the fewest digits that read back as the same number;
of several such decimals the nearest is taken, and of two equally near the one
with an even last digit. Notation is positional while the first digit stands
for a power of ten from -4 to 15, and scientific otherwise; an integral number
in positional notation keeps `.0`, and the exponent has a sign and at least
two digits. An infinity and what is not a number are written as words.
-/

namespace RoamTuning.Binary64

open RoamTuning

/-! ## The shortest digits -/

/-- A positive number with the two bounds between which decimals read back as
    it. All three are numerators over one denominator; the bounds themselves
    belong when `closed`. -/
structure Neighbourhood where
  value : Nat
  low : Nat
  high : Nat
  denominator : Nat
  closed : Bool

/-- The neighbourhood of `mantissa * 2 ^ exponent`. The gap below a power of
    two is half the gap above it. -/
def neighbourhood (mantissa : Nat) (exponent : Int) : Neighbourhood :=
  let narrow := mantissa = leastFullMantissa ∧ exponentMin < exponent
  let up := Nat.pow 2 exponent.toNat
  let down := Nat.pow 2 (-exponent).toNat
  { value := 4 * mantissa * up
    low := (4 * mantissa - if narrow then 1 else 2) * up
    high := (4 * mantissa + 2) * up
    denominator := 4 * down
    closed := mantissa % 2 = 0 }

/-- Whether `digits * num / den` lies in a neighbourhood. -/
def Neighbourhood.holds (v : Neighbourhood) (digits num den : Nat) : Bool :=
  let point := digits * num * v.denominator
  let low := v.low * den
  let high := v.high * den
  if v.closed then low ≤ point && point ≤ high else low < point && point < high

/-- The multiple of `num / den` that lies in a neighbourhood, the nearer one if
    both neighbours of the value do. -/
def Neighbourhood.onGrid? (v : Neighbourhood) (num den : Nat) : Option Nat :=
  let target := v.value * den
  let unit := num * v.denominator
  let below := target / unit
  let excess := target % unit
  match v.holds below num den, v.holds (below + 1) num den with
  | true, true =>
    if 2 * excess < unit ∨ (2 * excess = unit ∧ below % 2 = 0) then some below else some (below + 1)
  | true, false => some below
  | false, true => some (below + 1)
  | false, false => none

/-- The power of ten of the first digit of a positive fraction, found by
    trying the next `fuel` powers from `p` on. -/
def leadingPower (num den : Nat) : (fuel : Nat) → Int → Int
  | 0, p => p
  | fuel + 1, p =>
    let reached :=
      if 0 ≤ p + 1 then den * Nat.pow 10 (p + 1).toNat ≤ num
      else den ≤ num * Nat.pow 10 (-(p + 1)).toNat
    if reached then leadingPower num den fuel (p + 1) else p

/-- An estimate, not above the truth by construction, of the power of ten of
    the first digit of a positive fraction. -/
def powerEstimate (num den : Nat) : Int :=
  ((Nat.log2 num : Int) - Nat.log2 den - 1) * 30103 / 100000 - 1

/-- The digits and the unit, as a power of ten, of the first grid that has a
    point in the neighbourhood; `count` counts the digits tried. -/
def shortestFrom (v : Neighbourhood) (lead : Int) : (fuel count : Nat) → Nat × Int
  | 0, _ => (0, 0)
  | fuel + 1, count =>
    let unit : Int := lead + 1 - count
    let hit :=
      if 0 ≤ unit then v.onGrid? (Nat.pow 10 unit.toNat) 1
      else v.onGrid? 1 (Nat.pow 10 (-unit).toNat)
    match hit with
    | some digits => (digits, unit)
    | none => shortestFrom v lead fuel (count + 1)

/-- The fewest digits that read back as `mantissa * 2 ^ exponent`, and the power
    of ten of the last of them. Seventeen digits always suffice. -/
def shortest (mantissa : Nat) (exponent : Int) : Nat × Int :=
  let v := neighbourhood mantissa exponent
  let lead := leadingPower v.value v.denominator 8 (powerEstimate v.value v.denominator)
  shortestFrom v lead 18 1

/-! ## Notation -/

/-- How a decimal is laid out. -/
structure Layout where
  /-- The least power of ten of a first digit in positional notation. -/
  leastPositional : Int
  /-- The first power of ten of a first digit above positional notation. -/
  firstScientific : Int
  /-- The least number of digits of an exponent. -/
  exponentDigits : Nat

/-- The layout of numbers in messages: positional from 0.0001 to below
    10^16, exponents of at least two digits. -/
def messageLayout : Layout := ⟨-4, 16, 2⟩

/-- A number of at least `width` digits. -/
def padded (width n : Nat) : List Char :=
  let ds := Numeral.digits n
  List.replicate (width - ds.length) '0' ++ ds

/-- Digits with the point after the first `whole` of them, at least one digit
    on either side. -/
def pointed (ds : List Char) (whole : Int) : List Char :=
  if whole ≤ 0 then '0' :: '.' :: List.replicate (-whole).toNat '0' ++ ds
  else
    let before := ds.take whole.toNat ++ List.replicate (whole.toNat - ds.length) '0'
    let after := ds.drop whole.toNat
    before ++ '.' :: (if after.isEmpty then ['0'] else after)

/-- Digits in scientific notation. -/
def scientific (style : Layout) (ds : List Char) (power : Int) : List Char :=
  let fraction := ds.drop 1
  ds.take 1 ++ (if fraction.isEmpty then [] else '.' :: fraction)
    ++ 'e' :: (if power < 0 then '-' else '+') :: padded style.exponentDigits power.natAbs

/-- Decimal digits without the zeros at their end, of which there is one more
    digit than the fuel says. -/
def withoutTrailingZeros : (fuel : Nat) → Nat × Int → Nat × Int
  | 0, p => p
  | fuel + 1, (n, unit) =>
    if n ≠ 0 ∧ n % 10 = 0 then withoutTrailingZeros fuel (n / 10, unit + 1) else (n, unit)

/-- The text of a positive decimal. -/
def decimalChars (style : Layout) (n : Nat) (unit : Int) : List Char :=
  let ds := Numeral.digits n
  let power : Int := unit + ds.length - 1
  if style.leastPositional ≤ power ∧ power < style.firstScientific then pointed ds (power + 1)
  else scientific style ds power

/-- The text of a number in a message. -/
def text : Binary64 → String
  | .nan => "nan"
  | .infinite negative => if negative then "-inf" else "inf"
  | .finite negative m e =>
    let sign := if negative then ['-'] else []
    let body :=
      if m = 0 then ['0', '.', '0']
      else
        let (n, unit) := withoutTrailingZeros 18 (shortest m e)
        decimalChars messageLayout n unit
    String.ofList (sign ++ body)

/-! ## Reading -/

/-- The digits at the front of a text, and what follows. -/
def spanDigits (cs : List Char) : List Char × List Char :=
  cs.span Text.isAsciiDigit

/-- The number of ASCII digits. -/
def naturalOf (ds : List Char) : Nat :=
  Numeral.valueOf (ds.map fun c => c.toNat - 0x30)

/-- Reads the exponent of a decimal, which may be missing. -/
def readExponent : List Char → Option Int
  | [] => some 0
  | c :: r =>
    if c == 'e' || c == 'E' then
      let (negative, ds) := Numeral.splitSign r
      if ds.isEmpty || !ds.all Text.isAsciiDigit then none
      else some (Numeral.withSign negative (naturalOf ds))
    else none

/-- Reads an unsigned decimal: digits, optionally a point and digits, and
    optionally an exponent. -/
def readDecimal (negative : Bool) (cs : List Char) : Option Binary64 :=
  let (whole, rest) := spanDigits cs
  let (fraction, rest) :=
    match rest with
    | '.' :: r => spanDigits r
    | r => ([], r)
  if whole.isEmpty && fraction.isEmpty then none
  else (readExponent rest).map fun e =>
    ofDecimal negative (naturalOf (whole ++ fraction)) (e - fraction.length)

/-- Reads a number in the notation in which numbers are written. -/
def ofText? (t : String) : Option Binary64 :=
  let (negative, body) := Numeral.splitSign t.toList
  if body = ['n', 'a', 'n'] then some .nan
  else if body = ['i', 'n', 'f'] then some (.infinite negative)
  else readDecimal negative body

end RoamTuning.Binary64
