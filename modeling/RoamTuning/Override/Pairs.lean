import RoamTuning.Numeral
import RoamTuning.Table
import RoamTuning.Text.Pieces
import RoamTuning.Value.Conversion

/-!
# Tables of written pairs

A text made of pieces between delimiters is a table: a piece with an equals
sign gives the text before the first one, trimmed, the trimmed text after it as
value; any other piece is passed over. A key that is repeated keeps its first
place and has its last value.

The delimiter of a reader is a value of any kind: a text divides at its
occurrences, null at the runs of blanks, and no other value divides a text.

Results:

* `readPairs_text`: a reader whose delimiter is a text reads the table of a text.
* `readPairs_blanks`: a text of blanks alone has no words, so it has no pairs.
* `int?_of_absent`, `ints?_of_absent`: an absent key has no integers.
-/

namespace RoamTuning.Override

open RoamTuning.Text

/-- Keys with their values as texts. -/
abbrev PairTable := Table String String

/-- The pair that a piece writes, if it has an equals sign. -/
def pairOf? (piece : List Char) : Option (String × String) :=
  (cutAt '=' piece).map fun p =>
    (String.ofList (trimBy isBlank p.1), String.ofList (trimBy isBlank p.2))

/-- The pairs of a text, in order. -/
def pairsOf (d : Delimiter) (text : String) : List (String × String) :=
  (pieces d text.toList).filterMap pairOf?

/-- The table of a text. Model of `set_string`. -/
def pairTable (d : Delimiter) (text : String) : PairTable :=
  Table.ofPairs (pairsOf d text)

/-! ## Reading with a delimiter of any kind -/

/-- Why a text could not be divided into pairs. -/
inductive DivisionError where
  /-- The delimiter is the empty text. -/
  | emptyDelimiter
  /-- The delimiter is of a kind that divides no text. -/
  | notDelimiter (kind : String)
deriving DecidableEq, Repr

/-- What is said of a text that could not be divided. -/
def DivisionError.message : DivisionError → String
  | emptyDelimiter => "empty separator"
  | notDelimiter kind => "must be str or None, not " ++ kind

/-- The pieces of a text: its words if the delimiter is null, its parts between
    the occurrences of the delimiter if that is a text. -/
def piecesBy (delimiter : Value) (cs : List Char) : Except DivisionError (List (List Char)) :=
  match delimiter with
  | .null => .ok (words cs)
  | .text s =>
    match Delimiter.ofText? s with
    | some d => .ok (pieces d cs)
    | none => .error .emptyDelimiter
  | v => .error (.notDelimiter v.kindName)

/-- The table of a text. The empty text has no pairs, whatever the delimiter. -/
def readPairs (delimiter : Value) (text : String) : Except DivisionError PairTable :=
  if text.isEmpty then .ok Table.empty
  else (piecesBy delimiter text.toList).map fun ps => Table.ofPairs (ps.filterMap pairOf?)

/-- A table that is replaced by reading texts divided by one delimiter. Model of
    `KeyValueListParser`. -/
structure PairReader where
  delimiter : Value
  table : PairTable

namespace PairReader

/-- The delimiter of a reader for which none is asked. -/
def defaultDelimiter : Value := .text ","

/-- Replaces the table by the one of a text. A text that cannot be divided
    leaves an empty table. -/
def read (r : PairReader) (text : String) : PairReader × Except DivisionError Unit :=
  match readPairs r.delimiter text with
  | .ok t => ({ r with table := t }, .ok ())
  | .error e => ({ r with table := Table.empty }, .error e)

end PairReader

namespace PairTable

/-- The key that a value is, if it can be one; lists and objects cannot be looked
    up at all. -/
def keyOf? (v : Value) : Except Value.Misfit (Option String) :=
  match v with
  | .text s => .ok (some s)
  | .list _ | .object _ => .error (.notHashable v.kindName)
  | _ => .ok none

/-- The integer of a key, if its value is one. Model of `get_int`. -/
def int? (t : PairTable) (key : String) : Option Int :=
  (t.get? key).bind fun v => (Numeral.readWord v).toOption

/-- The integers that a text with colons between them writes. -/
def readInts (value : String) : Except Numeral.Problem (List Int) :=
  (pieces .colon value.toList).mapM fun piece => Numeral.readWord (String.ofList piece)

/-- The integers of a key, if its value is a list of them. Model of `get_int_array`. -/
def ints? (t : PairTable) (key : String) : Option (List Int) :=
  (t.get? key).bind fun v => (readInts v).toOption

theorem int?_of_absent {t : PairTable} {key : String} (h : t.get? key = none) :
    t.int? key = none := by
  simp [int?, h]

theorem ints?_of_absent {t : PairTable} {key : String} (h : t.get? key = none) :
    t.ints? key = none := by
  simp [ints?, h]

end PairTable

theorem readPairs_text {s : String} {d : Delimiter} (h : Delimiter.ofText? s = some d)
    (text : String) : readPairs (.text s) text = .ok (pairTable d text) := by
  by_cases empty : text.isEmpty
  · have : text = "" := by simpa using empty
    subst this
    rfl
  · simp [readPairs, empty, piecesBy, h, pairTable, pairsOf, Except.map]

theorem readPairs_blanks {text : String} (h : isBlankText text = true) :
    readPairs .null text = .ok Table.empty := by
  have nil : words text.toList = [] := by
    rw [words_eq_nil_iff]
    simpa [isBlankText] using h
  simp [readPairs, piecesBy, nil, Except.map, Table.ofPairs]

end RoamTuning.Override
