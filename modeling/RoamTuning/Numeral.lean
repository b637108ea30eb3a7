import RoamTuning.Text.Characters
import RoamTuning.Text.Printable

/-!
# Integers as text

Integers are written in decimal, with a minus sign where negative. They are
read in two ways. `readWord` is strict: an optional sign and ASCII digits, for
a value of 32 bits. `readAny` is lenient: spaces around, an optional sign,
digits of any script with single low lines between them, and any size. Neither
reads more than `digitLimit` digits.

Nor are more digits written: `tryText` fails there, and look-ups write by it.
`text` is the numeral alone. It stands where a message is about integers that
are taken to have few enough digits.

Results:

* `writeIf_eq_ok_iff`: when something is written.
-/

namespace RoamTuning.Numeral

open RoamTuning.Text

/-- The most digits, leading zeros included, that a numeral may have. -/
def digitLimit : Nat := 4300

/-- The least integer of 32 bits. -/
def wordMin : Int := -2147483648

/-- The greatest integer of 32 bits. -/
def wordMax : Int := 2147483647

/-- Why a text could not be read as an integer, or an integer not be written. -/
inductive Problem where
  /-- The text does not follow the strict form. -/
  | notPlain (text : String)
  /-- The value does not fit in 32 bits. -/
  | outOfRange (text : String)
  /-- The text does not follow the lenient form. -/
  | notLiteral (text : String)
  /-- There are more digits than the limit allows. -/
  | tooManyDigits (count : Nat)
  /-- The integer has more digits than the limit allows to write. -/
  | unwritable
deriving DecidableEq, Repr

/-! ## Writing -/

/-- The decimal digits of a natural number. -/
def digits (n : Nat) : List Char :=
  Nat.toDigits 10 n

/-- The characters of an integer in decimal. -/
def chars : Int → List Char
  | .ofNat n => digits n
  | .negSucc n => '-' :: digits (n + 1)

/-- An integer in decimal. -/
def text (n : Int) : String :=
  String.ofList (chars n)

/-- What is said of a text that could not be read or an integer that could not be
    written. The lenient form shows at most 200 characters of the quoted text. -/
def Problem.message : Problem → String
  | .notPlain t => "not an integer: " ++ quoted t
  | .outOfRange t => "integer out of range: " ++ quoted t
  | .notLiteral t =>
    "invalid literal for int() with base 10: "
      ++ String.ofList ((quotedChars t.toList).take 200)
  | .tooManyDigits count =>
    "Exceeds the limit (" ++ text digitLimit
      ++ " digits) for integer string conversion: value has " ++ text count
      ++ " digits; use sys.set_int_max_str_digits() to increase the limit"
  | .unwritable =>
    "Exceeds the limit (" ++ text digitLimit ++ " digits) for integer string conversion"
      ++ "; use sys.set_int_max_str_digits() to increase the limit"

/-- Whether an integer has few enough digits to be written. -/
def IsShort (n : Int) : Prop := (digits n.natAbs).length ≤ digitLimit

instance (n : Int) : Decidable (IsShort n) := inferInstanceAs (Decidable (_ ≤ _))

/-- The kinds of errors that can say that an integer has too many digits to be
    written. -/
class Limited (ε : Type) where
  unwritable : ε

section Limited

variable {ε : Type} [Limited ε]

/-- A text with integers in it, which is written only if they are short enough. -/
def writeIf (short : Prop) [Decidable short] (s : String) : Except ε String :=
  if short then .ok s else .error Limited.unwritable

theorem writeIf_of_short {short : Prop} [Decidable short] (h : short) (s : String) :
    (writeIf short s : Except ε String) = .ok s := if_pos h

theorem writeIf_of_long {short : Prop} [Decidable short] (h : ¬ short) (s : String) :
    (writeIf short s : Except ε String) = .error Limited.unwritable := if_neg h

theorem writeIf_eq_ok_iff {short : Prop} [Decidable short] {s t : String} :
    (writeIf short s : Except ε String) = .ok t ↔ short ∧ s = t := by
  by_cases h : short <;> simp [writeIf, h]

/-- An integer in decimal, unless it has too many digits. -/
def tryText (n : Int) : Except ε String := writeIf (IsShort n) (text n)

end Limited

/-! ## Reading -/

/-- The number that decimal digits spell, the first being worth most. -/
def valueOf (ds : List Nat) : Nat :=
  ds.foldl (fun n d => 10 * n + d) 0

/-- Whether a minus sign comes first, and what follows an optional sign. -/
def splitSign : List Char → Bool × List Char
  | '-' :: r => (true, r)
  | '+' :: r => (false, r)
  | cs => (false, cs)

/-- A magnitude with its sign. -/
def withSign (negative : Bool) (n : Nat) : Int :=
  if negative then -(n : Int) else n

/-- Whether a text is an optional sign followed by ASCII digits. -/
def isPlain (cs : List Char) : Bool :=
  let ds := (splitSign cs).2
  !ds.isEmpty && ds.all isAsciiDigit

/-- The integer that a plain numeral spells. -/
def plainValue (cs : List Char) : Int :=
  let (negative, ds) := splitSign cs
  withSign negative (valueOf (ds.map fun c => c.toNat - 0x30))

/-- Reads an integer of 32 bits in the strict form. Model of `parse_int`. -/
def readWord (t : String) : Except Problem Int :=
  let cs := t.toList
  let count := (splitSign cs).2.length
  if !isPlain cs then .error (.notPlain t)
  else if digitLimit < count then .error (.tooManyDigits count)
  else
    let n := plainValue cs
    if n < wordMin ∨ wordMax < n then .error (.outOfRange t) else .ok n

/-- The digits at the front of a text, with single low lines between them, and
    what follows; `none` if a low line is misplaced. `apart` says that a low
    line may not come next. -/
def digitRun : (apart : Bool) → List Char → Option (List Nat × List Char)
  | apart, [] => if apart then none else some ([], [])
  | apart, c :: r =>
    if c == '_' then (if apart then none else digitRun true r)
    else
      match digitValue? c with
      | some d => (digitRun false r).map fun p => (d :: p.1, p.2)
      | none => if apart then none else some ([], c :: r)

/-- Reads an integer in the lenient form. -/
def readAny (t : String) : Except Problem Int :=
  let (negative, body) := splitSign (t.toList.dropWhile isSpace)
  match digitRun true body with
  | none => .error (.notLiteral t)
  | some (ds, rest) =>
    if digitLimit < ds.length then .error (.tooManyDigits ds.length)
    else if rest.all isSpace then .ok (withSign negative (valueOf ds))
    else .error (.notLiteral t)

end RoamTuning.Numeral
