import RoamTuning.Numeral

/-!
# Integers as texts of documents

Where a document gives an integer as a text, the text may be a whole number as
it stands: an optional minus sign and ASCII digits without a superfluous zero.
Any other text is tidied first and then read as a whole number. Tidying drops
the spaces around the text, a plus sign, zeros in front, a fraction of zeros
and single low lines, in this order. Among zeros in front low lines count for
nothing, and a minus sign may come after them.

The number of digits is limited only in the first attempt; a tidied text with
too many digits is no number at all.
-/

namespace RoamTuning.Numeral

open RoamTuning.Text

/-- Why a text is no integer of a document. -/
inductive WholeProblem where
  | malformed
  | tooManyDigits
deriving DecidableEq, Repr

/-- Whether a character is an ASCII digit other than zero. -/
def isLeadingDigit (c : Char) : Bool := isAsciiDigit c && c != '0'

/-- Whether a minus sign comes first, and what follows it. -/
def splitMinus : List Char → Bool × List Char
  | '-' :: r => (true, r)
  | cs => (false, cs)

/-- The whole number that a text is. The digits at its front are counted before
    what follows them is looked at. -/
def readWhole (cs : List Char) : Except WholeProblem Int :=
  let (negative, body) := splitMinus cs
  let ds := body.takeWhile isAsciiDigit
  if body = ['0'] then .ok 0
  else if !(body.take 1).any isLeadingDigit then .error .malformed
  else if digitLimit < ds.length then .error .tooManyDigits
  else if ds.length = body.length then
    .ok (withSign negative (valueOf (ds.map fun c => c.toNat - 0x30)))
  else .error .malformed

/-! ## Tidying -/

/-- What is left of a number that starts with a zero, or with zeros and low
    lines of which `last` is the last one: the number from its first other
    digit or its minus sign on. A last character that nothing or a point
    follows is kept. -/
def afterZeros (last : Char) : List Char → Option (List Char)
  | [] => some [last]
  | c :: r =>
    if c == '0' || c == '_' then afterZeros c r
    else if isLeadingDigit c || c == '-' then some (c :: r)
    else if c == '.' then some (last :: c :: r)
    else none

/-- A number without the zeros in front. -/
def withoutZeros : List Char → Option (List Char)
  | [] => none
  | c :: r =>
    if c == '0' then afterZeros c r
    else if isLeadingDigit c then some (c :: r)
    else none

/-- A number without a fraction of zeros, of which there has to be one. -/
def withoutZeroFraction (cs : List Char) : List Char :=
  match cs.dropWhile (· != '.') with
  | '.' :: '0' :: r => if r.all (· == '0') then cs.takeWhile (· != '.') else cs
  | _ => cs

/-- Whether two low lines stand side by side. -/
def hasDoubleLowLine : List Char → Bool
  | a :: b :: r => (a == '_' && b == '_') || hasDoubleLowLine (b :: r)
  | _ => false

/-- A number without its low lines, if each of them stands alone between two
    other characters. -/
def withoutLowLines (cs : List Char) : List Char :=
  if cs.head? = some '_' || cs.getLast? = some '_' || hasDoubleLowLine cs then cs
  else cs.filter (· != '_')

/-- A text tidied as a whole number. -/
def tidied (cs : List Char) : Option (List Char) := do
  let (negative, body) := splitSign (trimBy isSpace cs)
  let body ← withoutZeros body
  let body := withoutLowLines (withoutZeroFraction body)
  return if negative then '-' :: body else body

/-- The integer that a text of a document is. -/
def readTidied (cs : List Char) : Except WholeProblem Int :=
  match readWhole cs with
  | .ok n => .ok n
  | .error .tooManyDigits => .error .tooManyDigits
  | .error .malformed =>
    match (tidied cs).map readWhole with
    | some (.ok n) => .ok n
    | _ => .error .malformed

end RoamTuning.Numeral
