import RoamTuning.Binary64
import RoamTuning.Value

/-!
# Documents

A document is a value as it stands in JSON. Its texts are made of code points:
an escape may write one half of a pair of surrogates, which is no character. As
a value of the program a document has U+FFFD in the place of each of these.

Results:

* `textOf_codesOf`: a text of characters is found again.
* `ofNat_of_char`: the code point of a character is that character.
-/

namespace RoamTuning.Json

open RoamTuning

/-- Whether a number is a high surrogate. -/
def isHighSurrogate (n : Nat) : Bool := 0xD800 ≤ n && n ≤ 0xDBFF

/-- Whether a number is a low surrogate. -/
def isLowSurrogate (n : Nat) : Bool := 0xDC00 ≤ n && n ≤ 0xDFFF

/-- The character that a high and a low surrogate make up. -/
def ofSurrogates (high low : Nat) : Char :=
  Char.ofNat (0x10000 + 0x400 * (high - 0xD800) + (low - 0xDC00))

/-- A code point: a character, or a surrogate that stands alone. -/
inductive Code where
  | char (c : Char)
  | surrogate (n : Nat)
deriving DecidableEq, Repr

namespace Code

/-- The code point of a number. -/
def ofNat (n : Nat) : Code :=
  if isHighSurrogate n || isLowSurrogate n then .surrogate n else .char (Char.ofNat n)

/-- A code point as a character; U+FFFD stands for a surrogate. -/
def toChar : Code → Char
  | char c => c
  | surrogate _ => '\uFFFD'

/-- Whether a code point is a surrogate. -/
def isSurrogate : Code → Bool
  | char _ => false
  | surrogate _ => true

/-- Whether a code point is a character of some kind. -/
def isChar (kind : Char → Bool) : Code → Bool
  | char c => kind c
  | surrogate _ => false

theorem ofNat_of_char (c : Char) : ofNat c.toNat = .char c := by
  have h : ¬ (0xD800 ≤ c.toNat ∧ c.toNat ≤ 0xDFFF) := by
    have valid := c.valid
    simp only [UInt32.isValidChar, Nat.isValidChar] at valid
    have same : c.val.toNat = c.toNat := rfl
    omega
  have high : isHighSurrogate c.toNat = false := by
    simp only [isHighSurrogate, Bool.and_eq_false_iff, decide_eq_false_iff_not]
    omega
  have low : isLowSurrogate c.toNat = false := by
    simp only [isLowSurrogate, Bool.and_eq_false_iff, decide_eq_false_iff_not]
    omega
  simp [ofNat, high, low, Char.ofNat_toNat]

end Code

/-- The code points of a text. -/
def codesOf (s : String) : List Code := s.toList.map .char

/-- Code points as a text. -/
def textOf (cs : List Code) : String := String.ofList (cs.map Code.toChar)

theorem textOf_codesOf (s : String) : textOf (codesOf s) = s := by
  simp [textOf, codesOf, Function.comp_def, Code.toChar]

/-- A value as it stands in JSON. The members of an object keep their order. -/
inductive Document where
  | null
  | bool (b : Bool)
  | int (n : Int)
  | float (x : Binary64)
  | text (cs : List Code)
  | list (items : List Document)
  | object (members : List (List Code × Document))
deriving Repr, Inhabited

namespace Document

mutual

/-- A document as a value of the program. -/
def value : Document → Value
  | null => .null
  | bool b => .bool b
  | int n => .int n
  | float x => .float x
  | text cs => .text (textOf cs)
  | list items => .list (itemValues items)
  | object members => .object (memberValues members)

/-- Items as values. -/
def itemValues : List Document → List Value
  | [] => []
  | d :: r => d.value :: itemValues r

/-- Members as values. -/
def memberValues : List (List Code × Document) → List (String × Value)
  | [] => []
  | m :: r => (textOf m.1, m.2.value) :: memberValues r

end

end Document

end RoamTuning.Json
