/-!
# Classes of characters

A property of characters that is data of a standard is kept as a list of closed
ranges of code points. Two classes are used everywhere. The decimal digits of
every script: each script has ten of them at consecutive code points, from its
zero on, as Unicode 14.0 assigns them. And two kinds of blank characters:
`isSpace` is the white space of the Unicode standard; `isBlank` adds the four
information separators U+001C to U+001F. Keys, values and flags are trimmed of
blanks, and integers of spaces.

Results:

* `digitValue?_lt`: a digit is worth less than ten.
* `digitValue?_ascii`: the value of an ASCII digit.
* `trimBy_eq_self`: a text that neither starts nor ends in the class is kept.
-/

namespace RoamTuning.Text

/-! ## Ranges of code points -/

/-- Closed ranges of code points, each given by its first and its last one. -/
abbrev CodeRanges := List (Nat × Nat)

namespace CodeRanges

/-- Whether a code point lies in one of the ranges. -/
def contains (rs : CodeRanges) (n : Nat) : Bool :=
  rs.any fun r => r.1 ≤ n && n ≤ r.2

end CodeRanges

/-! ## Decimal digits -/

/-- The zeros of the scripts outside ASCII, in order of code points. -/
def foreignZeros : List Nat := [
  0x660, 0x6F0, 0x7C0, 0x966, 0x9E6, 0xA66, 0xAE6, 0xB66, 0xBE6, 0xC66, 0xCE6, 0xD66, 0xDE6,
  0xE50, 0xED0, 0xF20, 0x1040, 0x1090, 0x17E0, 0x1810, 0x1946, 0x19D0, 0x1A80, 0x1A90, 0x1B50,
  0x1BB0, 0x1C40, 0x1C50, 0xA620, 0xA8D0, 0xA900, 0xA9D0, 0xA9F0, 0xAA50, 0xABF0, 0xFF10,
  0x104A0, 0x10D30, 0x11066, 0x110F0, 0x11136, 0x111D0, 0x112F0, 0x11450, 0x114D0, 0x11650,
  0x116C0, 0x11730, 0x118E0, 0x11950, 0x11C50, 0x11D50, 0x11DA0, 0x16A60, 0x16AC0, 0x16B50,
  0x1D7CE, 0x1D7D8, 0x1D7E2, 0x1D7EC, 0x1D7F6, 0x1E140, 0x1E2F0, 0x1E950, 0x1FBF0]

/-- Whether a character is one of the ASCII digits. -/
def isAsciiDigit (c : Char) : Bool :=
  0x30 ≤ c.toNat && c.toNat ≤ 0x39

/-- What a decimal digit of any script is worth. -/
def digitValue? (c : Char) : Option Nat :=
  if isAsciiDigit c then some (c.toNat - 0x30)
  else
    (foreignZeros.find? fun z => z ≤ c.toNat && c.toNat ≤ z + 9).map (c.toNat - ·)

theorem digitValue?_ascii {c : Char} (h : isAsciiDigit c = true) :
    digitValue? c = some (c.toNat - 0x30) := by
  simp [digitValue?, h]

theorem digitValue?_lt {c : Char} {d : Nat} (h : digitValue? c = some d) : d < 10 := by
  unfold digitValue? at h
  split at h
  · rename_i hc
    simp only [isAsciiDigit, Bool.and_eq_true, decide_eq_true_eq] at hc
    simp only [Option.some.injEq] at h
    omega
  · obtain ⟨z, hz, rfl⟩ := Option.map_eq_some_iff.1 h
    have := List.find?_some hz
    simp only [Bool.and_eq_true, decide_eq_true_eq] at this
    omega

/-! ## Blanks -/

/-- White space: the control characters U+0009 to U+000D, the space, and the
    spaces and line separators outside ASCII. -/
def isSpace (c : Char) : Bool :=
  let n := c.toNat
  (0x9 ≤ n && n ≤ 0xD) || n == 0x20 || n == 0x85 || n == 0xA0 || n == 0x1680
    || (0x2000 ≤ n && n ≤ 0x200A) || n == 0x2028 || n == 0x2029 || n == 0x202F
    || n == 0x205F || n == 0x3000

/-- A blank: white space, or one of the information separators U+001C to
    U+001F. -/
def isBlank (c : Char) : Bool :=
  isSpace c || (0x1C ≤ c.toNat && c.toNat ≤ 0x1F)

/-- The text without the characters of a class at its two ends. -/
def trimBy (p : Char → Bool) (cs : List Char) : List Char :=
  ((cs.dropWhile p).reverse.dropWhile p).reverse

/-- The text without the blanks at its two ends. -/
def trim (s : String) : String :=
  String.ofList (trimBy isBlank s.toList)

/-- Whether the text is made of blanks alone. -/
def isBlankText (s : String) : Bool :=
  s.toList.all isBlank

/-! ## Trimming -/

theorem dropWhile_eq_self_of_head {p : Char → Bool} {cs : List Char}
    (h : ∀ c ∈ cs.head?, p c = false) : cs.dropWhile p = cs := by
  cases cs with
  | nil => rfl
  | cons c r => simp [h c (by simp)]

theorem trimBy_eq_self {p : Char → Bool} {cs : List Char}
    (head : ∀ c ∈ cs.head?, p c = false) (last : ∀ c ∈ cs.getLast?, p c = false) :
    trimBy p cs = cs := by
  have back : cs.reverse.dropWhile p = cs.reverse :=
    dropWhile_eq_self_of_head (by simpa [List.head?_reverse] using last)
  simp [trimBy, dropWhile_eq_self_of_head head, back]

end RoamTuning.Text
