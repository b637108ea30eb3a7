import RoamTuning.Binary64.Decimal
import RoamTuning.Json.Document
import RoamTuning.Table

/-!
# Reading JSON documents

A document is one value with white space around it. Beyond the standard, the
words `NaN`, `Infinity` and `-Infinity` are numbers. Integers keep their size,
other numbers are rounded to binary floating point, and of several members of
one name the last counts, at the place of the first. A high and a low
surrogate escaped one after the other are one character; one that stands alone
stays what it is.

Results:

* `after?_append`: a word is found in front of whatever follows it.
-/

namespace RoamTuning.Json

open RoamTuning RoamTuning.Text

/-- Why a text is no document. -/
inductive ReadError where
  /-- The text breaks the form of a document. -/
  | malformed
  /-- An integer has more digits than are read. -/
  | tooManyDigits
  /-- Lists and objects are nested more deeply than is read. -/
  | tooDeep
deriving DecidableEq, Repr

/-- Whether a character is white space between the parts of a document. -/
def isGap (c : Char) : Bool :=
  c == ' ' || c == '\t' || c == '\n' || c == '\r'

/-- The text from the first code point on that is no white space. -/
def skipGap (cs : List Code) : List Code := cs.dropWhile (Code.isChar isGap)

/-- What follows a word at the front of a text. -/
def after? : (word : List Char) → List Code → Option (List Code)
  | [], cs => some cs
  | _ :: _, [] => none
  | w :: ws, c :: r => if c = .char w then after? ws r else none

/-! ## Texts -/

/-- What a hexadecimal digit is worth. -/
def hexValue? : Code → Option Nat
  | .surrogate _ => none
  | .char c =>
    if c.isDigit then some (c.toNat - '0'.toNat)
    else if 'a' ≤ c ∧ c ≤ 'f' then some (c.toNat - 'a'.toNat + 10)
    else if 'A' ≤ c ∧ c ≤ 'F' then some (c.toNat - 'A'.toNat + 10)
    else none

/-- The number of four hexadecimal digits, and what follows them. -/
def readHex4 : List Code → Option (Nat × List Code)
  | a :: b :: c :: d :: r => do
    let a ← hexValue? a
    let b ← hexValue? b
    let c ← hexValue? c
    let d ← hexValue? d
    return (4096 * a + 256 * b + 16 * c + d, r)
  | _ => none

/-- The low surrogate escaped at the front of a text, and what follows it. -/
def readLowSurrogate? (cs : List Code) : Option (Nat × List Code) :=
  match after? [backslash, 'u'] cs with
  | none => none
  | some r => (readHex4 r).filter fun p => isLowSurrogate p.1

/-- The code point of a number given in hexadecimal digits, which may be the
    first half of a pair of surrogates, and what follows it. -/
def readEscapedUnit (cs : List Code) : Option (Code × List Code) := do
  let (n, r) ← readHex4 cs
  if isHighSurrogate n then
    match readLowSurrogate? r with
    | some (low, r') => return (.char (ofSurrogates n low), r')
    | none => return (.ofNat n, r)
  else return (.ofNat n, r)

/-- The character that a letter after a backslash stands for. -/
def escaped? (c : Char) : Option Char :=
  if c == doubleQuote || c == backslash || c == '/' then some c
  else if c == 'b' then some '\x08'
  else if c == 'f' then some '\x0c'
  else if c == 'n' then some '\n'
  else if c == 'r' then some '\r'
  else if c == 't' then some '\t'
  else none

/-- Whether a character may stand for itself in a text. -/
def isUnescaped (c : Char) : Bool := !(c.toNat < 0x20)

/-- The code points of a text up to its closing quote, and what follows it. The
    fuel is at least the number of code points. -/
def readText : (fuel : Nat) → List Code → Option (List Code × List Code)
  | 0, _ => none
  | _, [] => none
  | fuel + 1, .surrogate n :: r => (readText fuel r).map fun p => (.surrogate n :: p.1, p.2)
  | fuel + 1, .char c :: r =>
    if c == doubleQuote then some ([], r)
    else if c == backslash then
      match r with
      | .char 'u' :: r' => do
        let (d, rest) ← readEscapedUnit r'
        let (ds, rest') ← readText fuel rest
        return (d :: ds, rest')
      | .char e :: r' => do
        let d ← escaped? e
        let (ds, rest) ← readText fuel r'
        return (.char d :: ds, rest)
      | _ => none
    else if isUnescaped c then (readText fuel r).map fun p => (.char c :: p.1, p.2)
    else none

/-! ## Numbers -/

/-- The digits at the front of a text, and what follows them. -/
def readDigits : List Code → List Char × List Code
  | .char c :: r =>
    if isAsciiDigit c then
      let (ds, rest) := readDigits r
      (c :: ds, rest)
    else ([], .char c :: r)
  | cs => ([], cs)

/-- The digits before a point: a single zero, or digits that do not start with
    one. -/
def readWhole : List Code → List Char × List Code
  | .char '0' :: r => (['0'], r)
  | cs => readDigits cs

/-- The digits after a point, if there are any. -/
def readFraction (cs : List Code) : List Char × List Code :=
  match after? ['.'] cs with
  | none => ([], cs)
  | some r =>
    match readDigits r with
    | ([], _) => ([], cs)
    | p => p

/-- Whether a minus sign comes first, and what follows an optional sign. -/
def readSign : List Code → Bool × List Code
  | .char '-' :: r => (true, r)
  | .char '+' :: r => (false, r)
  | cs => (false, cs)

/-- Whether a character announces an exponent. -/
def isPowerMark (c : Char) : Bool := c == 'e' || c == 'E'

/-- The exponent of a number, if it has one. -/
def readPower (cs : List Code) : Option Int × List Code :=
  match cs with
  | [] => (none, [])
  | c :: r =>
    if c.isChar isPowerMark then
      let (negative, body) := readSign r
      match readDigits body with
      | ([], _) => (none, cs)
      | (ds, rest) => (some (Numeral.withSign negative (Binary64.naturalOf ds)), rest)
    else (none, cs)

/-- The number at the front of a text, and what follows it. -/
def readNumber (cs : List Code) : Except ReadError (Document × List Code) :=
  let (negative, body) :=
    match after? ['-'] cs with
    | some r => (true, r)
    | none => (false, cs)
  let (whole, rest) := readWhole body
  let (fraction, rest) := readFraction rest
  let (power, rest) := readPower rest
  if whole.isEmpty then .error .malformed
  else if fraction.isEmpty && power.isNone then
    if Numeral.digitLimit < whole.length then .error .tooManyDigits
    else .ok (.int (Numeral.withSign negative (Binary64.naturalOf whole)), rest)
  else
    let x := Binary64.ofDecimal negative (Binary64.naturalOf (whole ++ fraction))
      (power.getD 0 - fraction.length)
    .ok (.float x, rest)

/-! ## Values -/

/-- The words that are values by themselves. -/
def words : List (List Char × Document) :=
  [ (['n', 'u', 'l', 'l'], .null),
    (['t', 'r', 'u', 'e'], .bool true),
    (['f', 'a', 'l', 's', 'e'], .bool false),
    (['N', 'a', 'N'], .float .nan),
    (['I', 'n', 'f', 'i', 'n', 'i', 't', 'y'], .float (.infinite false)),
    (['-', 'I', 'n', 'f', 'i', 'n', 'i', 't', 'y'], .float (.infinite true)) ]

/-- The word at the front of a text, and what follows it. -/
def readWord? (cs : List Code) : Option (Document × List Code) :=
  words.findSome? fun w => (after? w.1 cs).map fun r => (w.2, r)

mutual

/-- The value at the front of a text, and what follows it. Lists and objects may
    be nested as deeply as `depth` says. The fuel is at least twice the number
    of code points. -/
def readValue : (fuel depth : Nat) → List Code → Except ReadError (Document × List Code)
  | 0, _, _ => .error .malformed
  | _, _, [] => .error .malformed
  | fuel + 1, depth, c :: r =>
    if c = .char doubleQuote then
      match readText (r.length + 1) r with
      | some (ds, rest) => .ok (.text ds, rest)
      | none => .error .malformed
    else if c = .char '[' then
      if depth = 0 then .error .tooDeep
      else
        let r := skipGap r
        match after? [']'] r with
        | some rest => .ok (.list [], rest)
        | none => (readItems fuel (depth - 1) r).map fun p => (.list p.1, p.2)
    else if c = .char '\x7b' then
      if depth = 0 then .error .tooDeep
      else
        let r := skipGap r
        match after? ['\x7d'] r with
        | some rest => .ok (.object [], rest)
        | none =>
          (readMembers fuel (depth - 1) r).map fun p =>
            (.object (Table.ofPairs p.1).entries, p.2)
    else
      match readWord? (c :: r) with
      | some p => .ok p
      | none => readNumber (c :: r)

/-- The items of a list up to its closing bracket, and what follows it. -/
def readItems : (fuel depth : Nat) → List Code → Except ReadError (List Document × List Code)
  | 0, _, _ => .error .malformed
  | fuel + 1, depth, cs => do
    let (v, rest) ← readValue fuel depth cs
    match skipGap rest with
    | .char ']' :: rest => return ([v], rest)
    | .char ',' :: rest =>
      let (vs, rest) ← readItems fuel depth (skipGap rest)
      return (v :: vs, rest)
    | _ => .error .malformed

/-- The members of an object up to its closing brace, and what follows it. -/
def readMembers : (fuel depth : Nat) → List Code →
    Except ReadError (List (List Code × Document) × List Code)
  | 0, _, _ => .error .malformed
  | _, _, [] => .error .malformed
  | fuel + 1, depth, c :: r => do
    if c ≠ .char doubleQuote then .error .malformed
    else
      match readText (r.length + 1) r with
      | none => .error .malformed
      | some (name, rest) =>
        match skipGap rest with
        | .char ':' :: rest =>
          let (v, rest) ← readValue fuel depth (skipGap rest)
          match skipGap rest with
          | .char '\x7d' :: rest => return ([(name, v)], rest)
          | .char ',' :: rest =>
            let (ms, rest) ← readMembers fuel depth (skipGap rest)
            return ((name, v) :: ms, rest)
          | _ => .error .malformed
        | _ => .error .malformed

end

/-- How deeply lists and objects of a document may be nested. -/
def depthLimit : Nat := 965

/-- Reads a document given as code points. -/
def readCodes (cs : List Code) : Except ReadError Document := do
  let (v, rest) ← readValue (2 * cs.length + 2) depthLimit (skipGap cs)
  if (skipGap rest).isEmpty then return v else .error .malformed

/-! ## Laws -/

theorem after?_append (word : List Char) (cs : List Code) :
    after? word (word.map .char ++ cs) = some cs := by
  induction word with
  | nil => rfl
  | cons w r ih => simp [after?, ih]

end RoamTuning.Json
