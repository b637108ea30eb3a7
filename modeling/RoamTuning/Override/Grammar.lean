/-!
# The grammar of override text

Override text is a list of pairs separated by commas, each a key, an equals
sign and a value. A key is an ASCII letter or low line, followed by letters,
digits and low lines; a value is one or more of the characters
`0`-`9 . : + -`. There is no white space, and the empty text is not allowed.

The check reads the text once from left to right; `Place` says what may come
next. `IsPair` states the form of one pair without the check.

A text that may hold anything is shown with every character outside the
alphabet of override text replaced by a question mark, and cut when it is
long. This is for display only and is no check.

Results:

* `accepts_iff_run`: a text is accepted exactly when the check ends inside a value.
* `length_display_le`: what is shown has at most 101 characters.
* `display_of_short`: a short text keeps its length.
-/

namespace RoamTuning.Override

/-- Whether a character is an ASCII letter or the low line. -/
def startsKey (c : Char) : Bool :=
  c.isAlpha || c == '_'

/-- Whether a character may stand in a key after its first character. -/
def continuesKey (c : Char) : Bool :=
  startsKey c || c.isDigit

/-- Whether a character may stand in a value. -/
def inValue (c : Char) : Bool :=
  c.isDigit || c == '.' || c == ':' || c == '+' || c == '-'

/-- What has been read of a pair. -/
inductive Place where
  /-- Nothing: a key has to start. -/
  | start
  /-- A part of the key, at least one character. -/
  | key
  /-- The key and the equals sign: a value has to start. -/
  | equals
  /-- A part of the value, at least one character. -/
  | value
deriving DecidableEq, Repr

/-- The place after one more character, if that may come. -/
def Place.next? : Place → Char → Option Place
  | start, c => if startsKey c then some key else none
  | key, c => if c == '=' then some equals else if continuesKey c then some key else none
  | equals, c => if inValue c then some value else none
  | value, c => if c == ',' then some start else if inValue c then some value else none

/-- The place after a text, if all its characters may come. -/
def Place.run? : Place → List Char → Option Place
  | p, [] => some p
  | p, c :: r => (p.next? c).bind fun q => q.run? r

/-- Whether a text is override text. Model of the pattern of `check_grammar`. -/
def accepts (text : String) : Bool :=
  Place.start.run? text.toList == some .value

/-- A pair: a key, the equals sign and a value. -/
def IsPair (cs : List Char) : Prop :=
  ∃ (first : Char) (key value : List Char), cs = first :: key ++ '=' :: value
    ∧ startsKey first = true ∧ (∀ c ∈ key, continuesKey c = true)
    ∧ value ≠ [] ∧ ∀ c ∈ value, inValue c = true

theorem accepts_iff_run {text : String} :
    accepts text = true ↔ Place.start.run? text.toList = some .value := by
  simp [accepts]

/-! ## Untrusted text in messages -/

/-- Whether a character is shown as itself: those of override text. -/
def isShown (c : Char) : Bool :=
  continuesKey c || inValue c || c == '=' || c == ','

/-- A character as it is shown. -/
def shownChar (c : Char) : Char := if isShown c then c else '?'

/-- The most characters that are shown whole. -/
def displayLimit : Nat := 100

/-- How many characters of a longer text are shown. -/
def displayCut : Nat := 98

/-- The characters that are shown of a text. -/
def display (cs : List Char) : List Char :=
  let shown := cs.map shownChar
  if displayLimit < shown.length then shown.take displayCut ++ ['.', '.', '.'] else shown

/-- A text made safe for display. Model of `sanitize`. -/
def sanitize (text : String) : String :=
  String.ofList (display text.toList)

theorem display_of_short {cs : List Char} (h : cs.length ≤ displayLimit) :
    display cs = cs.map shownChar := by
  have : ¬ displayLimit < cs.length := by omega
  simp [display, this]

theorem display_of_long {cs : List Char} (h : displayLimit < cs.length) :
    display cs = (cs.map shownChar).take displayCut ++ ['.', '.', '.'] := by
  simp [display, h]

theorem length_display_le (cs : List Char) : (display cs).length ≤ displayLimit + 1 := by
  by_cases h : displayLimit < cs.length
  · rw [display_of_long h, List.length_append, List.length_take]
    simp only [displayCut, displayLimit, List.length_cons, List.length_nil]
    omega
  · rw [display_of_short (by omega), List.length_map]
    omega

end RoamTuning.Override
