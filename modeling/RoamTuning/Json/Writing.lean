import RoamTuning.Binary64.Decimal
import RoamTuning.Json.Document

/-!
# Writing JSON documents

Documents are written without white space. Texts are quoted, with the quote, the
backslash and the control characters below the space escaped, and every other
code point as it is. A number that is not finite cannot be written, nor can
lists and objects be nested too deeply; what comes first in the text decides.
What was written can be sent only if it holds no surrogate.

Results:

* `writeText_of_unescaped`: a text without characters that are escaped stands
  between quotes as it is.
* `unsendable?_of_characters`: characters can always be sent.
-/

namespace RoamTuning.Json

open RoamTuning RoamTuning.Text

/-- Why a document cannot be written. -/
inductive WriteError where
  /-- A number is not finite. -/
  | notFinite
  /-- Lists and objects are nested too deeply. -/
  | tooDeep
deriving DecidableEq, Repr

/-! ## Texts -/

/-- The letter that stands after a backslash for a character. -/
def escapeLetter? (c : Char) : Option Char :=
  if c == doubleQuote || c == backslash then some c
  else if c == '\x08' then some 'b'
  else if c == '\x0c' then some 'f'
  else if c == '\n' then some 'n'
  else if c == '\r' then some 'r'
  else if c == '\t' then some 't'
  else none

/-- A code point inside a text. -/
def writeCode : Code → List Code
  | .surrogate n => [.surrogate n]
  | .char c =>
    match escapeLetter? c with
    | some letter => [.char backslash, .char letter]
    | none =>
      if c.toNat < 0x20 then (backslash :: 'u' :: hexadecimal 4 c.toNat).map .char
      else [.char c]

/-- A text between quotes. -/
def writeText (cs : List Code) : List Code :=
  .char doubleQuote :: cs.flatMap writeCode ++ [.char doubleQuote]

/-! ## Documents -/

/-- Pieces with commas between them. -/
def separated : List (List Code) → List Code
  | [] => []
  | [p] => p
  | p :: r => p ++ .char ',' :: separated r

/-- Pieces between brackets or braces. -/
def enclosed (opening closing : Char) (pieces : List (List Code)) : List Code :=
  .char opening :: separated pieces ++ [.char closing]

mutual

/-- Writes a document, in which lists and objects may be nested as deeply as
    `depth` says. -/
def write (depth : Nat) : Document → Except WriteError (List Code)
  | .null => .ok (codesOf "null")
  | .bool b => .ok (codesOf (if b then "true" else "false"))
  | .int n => .ok (codesOf (Numeral.text n))
  | .float x =>
    match x with
    | .finite .. => .ok (codesOf x.text)
    | _ => .error .notFinite
  | .text cs => .ok (writeText cs)
  | .list items =>
    if depth = 0 then .error .tooDeep
    else (writeItems (depth - 1) items).map (enclosed '[' ']')
  | .object members =>
    if depth = 0 then .error .tooDeep
    else (writeMembers (depth - 1) members).map (enclosed '\x7b' '\x7d')

/-- Writes items. -/
def writeItems (depth : Nat) : List Document → Except WriteError (List (List Code))
  | [] => .ok []
  | d :: r => do
    let p ← write depth d
    let ps ← writeItems depth r
    return p :: ps

/-- Writes members. -/
def writeMembers (depth : Nat) : List (List Code × Document) →
    Except WriteError (List (List Code))
  | [] => .ok []
  | m :: r => do
    let p ← write depth m.2
    let ps ← writeMembers depth r
    return (writeText m.1 ++ .char ':' :: p) :: ps

end

/-! ## Sending -/

/-- Surrogates in a row that keep a text from being sent: the position of the
    first, the first itself, and how many there are. -/
structure Unsendable where
  position : Nat
  first : Nat
  count : Nat
deriving DecidableEq, Repr

/-- The first surrogates of a text that starts at a position. -/
def unsendableFrom? (position : Nat) : List Code → Option Unsendable
  | [] => none
  | .char _ :: r => unsendableFrom? (position + 1) r
  | .surrogate n :: r => some ⟨position, n, 1 + (r.takeWhile Code.isSurrogate).length⟩

/-- The surrogates that keep a text from being sent. -/
def unsendable? (cs : List Code) : Option Unsendable := unsendableFrom? 0 cs

/-- What is said of a text that cannot be sent. -/
def Unsendable.message (u : Unsendable) : String :=
  let what :=
    if u.count = 1 then
      "character '" ++ String.ofList (backslash :: 'u' :: hexadecimal 4 u.first)
        ++ "' in position " ++ Numeral.text u.position
    else
      "characters in position " ++ Numeral.text u.position ++ "-"
        ++ Numeral.text (u.position + u.count - 1 : Nat)
  "'utf-8' codec can't encode " ++ what ++ ": surrogates not allowed"

/-! ## Laws -/

theorem writeText_of_unescaped {s : String}
    (h : ∀ c ∈ s.toList, escapeLetter? c = none ∧ ¬ c.toNat < 0x20) :
    writeText (codesOf s) = .char doubleQuote :: codesOf s ++ [.char doubleQuote] := by
  have : ∀ cs : List Char, (∀ c ∈ cs, escapeLetter? c = none ∧ ¬ c.toNat < 0x20) →
      (cs.map Code.char).flatMap writeCode = cs.map .char := by
    intro cs
    induction cs with
    | nil => intro _; rfl
    | cons c r ih =>
      intro h
      have first := h c (by simp)
      simp only [List.map_cons, List.flatMap_cons, ih fun d hd => h d (by simp [hd])]
      simp [writeCode, first]
  rw [writeText, codesOf, this _ h]

theorem unsendable?_of_characters (s : String) : unsendable? (codesOf s) = none := by
  have : ∀ (cs : List Char) (position : Nat),
      unsendableFrom? position (cs.map .char) = none := by
    intro cs
    induction cs with
    | nil => intro _; rfl
    | cons c r ih => intro position; exact ih (position + 1)
  exact this _ 0

end RoamTuning.Json
