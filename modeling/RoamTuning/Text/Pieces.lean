import RoamTuning.Text.Characters

/-!
# Pieces and words of a text

A delimiter is a text that is never empty. `pieces` cuts a text at the
occurrences of a delimiter, found from the left and not overlapping, and
`cutAt` cuts it at the first occurrence of one character. The words of a text
are its longest parts without blanks, in order: blanks at the two ends and
several blanks in a row make no empty words.

Results:

* `pieces_ne_nil`: a text always has a piece.
* `cutAt_eq_none_iff`: a text cannot be cut exactly when the character is absent.
* `cutAt_eq_some_iff`: the part before the cut lacks the character, and the two
  parts with the character between them are the text.
* `ne_nil_of_mem_words`, `isBlank_of_mem_words`: a word is not empty and has no
  blanks.
* `words_eq_nil_iff`: exactly the texts made of blanks alone have no words.
-/

namespace RoamTuning.Text

/-- A text with at least one character, by which another text is divided. -/
structure Delimiter where
  first : Char
  rest : List Char
deriving DecidableEq, Repr

namespace Delimiter

/-- The single comma. -/
def comma : Delimiter := ⟨',', []⟩

/-- The single colon. -/
def colon : Delimiter := ⟨':', []⟩

def chars (d : Delimiter) : List Char := d.first :: d.rest

/-- The delimiter that a text spells; the empty text spells none. -/
def ofText? (s : String) : Option Delimiter :=
  match s.toList with
  | [] => none
  | c :: r => some ⟨c, r⟩

end Delimiter

/-- Puts a character in front of the first piece. -/
def onFirst (c : Char) : List (List Char) → List (List Char)
  | [] => [[c]]
  | p :: ps => (c :: p) :: ps

/-- The pieces of a text of which the first `pass` characters still belong to
    a delimiter that has been found. -/
def piecesFrom (d : Delimiter) : Nat → List Char → List (List Char)
  | _, [] => [[]]
  | pass + 1, _ :: r => piecesFrom d pass r
  | 0, c :: r =>
    if d.chars.isPrefixOf (c :: r) then [] :: piecesFrom d d.rest.length r
    else onFirst c (piecesFrom d 0 r)

/-- The pieces of a text between the occurrences of a delimiter. -/
def pieces (d : Delimiter) (cs : List Char) : List (List Char) :=
  piecesFrom d 0 cs

/-- The parts of a text before and after the first occurrence of a character. -/
def cutAt (a : Char) : List Char → Option (List Char × List Char)
  | [] => none
  | c :: r => if c = a then some ([], r) else (cutAt a r).map fun p => (c :: p.1, p.2)

/-- Texts written one after the other with a separator between neighbours. -/
def joined (sep : String) : List String → String
  | [] => ""
  | [s] => s
  | s :: t :: r => s ++ sep ++ joined sep (t :: r)

/-! ## Pieces -/

theorem onFirst_ne_nil (c : Char) (ps : List (List Char)) : onFirst c ps ≠ [] := by
  cases ps <;> simp [onFirst]

theorem piecesFrom_ne_nil (d : Delimiter) (pass : Nat) (cs : List Char) :
    piecesFrom d pass cs ≠ [] := by
  induction cs generalizing pass with
  | nil => simp [piecesFrom]
  | cons c r ih =>
    cases pass with
    | succ k => simpa [piecesFrom] using ih k
    | zero =>
      simp only [piecesFrom]
      split
      · simp
      · exact onFirst_ne_nil _ _

theorem pieces_ne_nil (d : Delimiter) (cs : List Char) : pieces d cs ≠ [] :=
  piecesFrom_ne_nil d 0 cs

/-! ## Cutting at a character -/

theorem cutAt_eq_none_iff {a : Char} {cs : List Char} : cutAt a cs = none ↔ a ∉ cs := by
  induction cs with
  | nil => simp [cutAt]
  | cons c r ih =>
    by_cases h : c = a
    · simp [cutAt, h]
    · simp [cutAt, h, ih, Ne.symm h]

theorem cutAt_append {a : Char} {u v : List Char} (h : a ∉ u) :
    cutAt a (u ++ a :: v) = some (u, v) := by
  induction u with
  | nil => simp [cutAt]
  | cons c r ih =>
    have hc : c ≠ a := fun e => h (by simp [e])
    have hr : a ∉ r := fun e => h (by simp [e])
    simp [cutAt, hc, ih hr]

theorem cutAt_eq_some_iff {a : Char} {cs u v : List Char} :
    cutAt a cs = some (u, v) ↔ a ∉ u ∧ cs = u ++ a :: v := by
  constructor
  · intro h
    induction cs generalizing u with
    | nil => simp [cutAt] at h
    | cons c r ih =>
      by_cases hc : c = a
      · simp only [cutAt, hc, if_true, Option.some.injEq, Prod.mk.injEq] at h
        obtain ⟨rfl, rfl⟩ := h
        simp [hc]
      · simp only [cutAt, hc, if_false, Option.map_eq_some_iff, Prod.mk.injEq] at h
        obtain ⟨⟨u', v'⟩, hr, rfl, rfl⟩ := h
        obtain ⟨hu, rfl⟩ := ih hr
        exact ⟨by simp [Ne.symm hc, hu], by simp⟩
  · rintro ⟨hu, rfl⟩
    exact cutAt_append hu

/-! ## Words -/

/-- The parts of a text between single blanks, which may be empty. -/
def partsAtBlanks : List Char → List (List Char)
  | [] => [[]]
  | c :: r => if isBlank c then [] :: partsAtBlanks r else onFirst c (partsAtBlanks r)

/-- The words of a text. -/
def words (cs : List Char) : List (List Char) :=
  (partsAtBlanks cs).filter fun w => !w.isEmpty

theorem flatten_onFirst (c : Char) (ps : List (List Char)) :
    (onFirst c ps).flatten = c :: ps.flatten := by
  cases ps <;> simp [onFirst]

theorem flatten_partsAtBlanks (cs : List Char) :
    (partsAtBlanks cs).flatten = cs.filter fun c => !isBlank c := by
  induction cs with
  | nil => rfl
  | cons c r ih => cases h : isBlank c <;> simp [partsAtBlanks, h, flatten_onFirst, ih]

theorem flatten_filter_not_isEmpty (ps : List (List Char)) :
    (ps.filter fun w => !w.isEmpty).flatten = ps.flatten := by
  induction ps with
  | nil => rfl
  | cons w r ih => cases w <;> simp [ih]

theorem ne_nil_of_mem_words {cs w : List Char} (h : w ∈ words cs) : w ≠ [] := by
  simpa using (List.mem_filter.mp h).2

theorem flatten_words (cs : List Char) :
    (words cs).flatten = cs.filter fun c => !isBlank c := by
  rw [words, flatten_filter_not_isEmpty, flatten_partsAtBlanks]

theorem isBlank_of_mem_words {cs w : List Char} {c : Char} (hw : w ∈ words cs) (hc : c ∈ w) :
    isBlank c = false := by
  have h : c ∈ (words cs).flatten := List.mem_flatten.mpr ⟨w, hw, hc⟩
  rw [flatten_words] at h
  simpa using (List.mem_filter.mp h).2

theorem words_eq_nil_iff {cs : List Char} : words cs = [] ↔ ∀ c ∈ cs, isBlank c = true := by
  have flat : words cs = [] ↔ (words cs).flatten = [] := by
    constructor
    · intro h
      simp [h]
    · intro h
      rw [List.eq_nil_iff_forall_not_mem]
      intro w hw
      exact ne_nil_of_mem_words hw (List.flatten_eq_nil_iff.mp h w hw)
  rw [flat, flatten_words]
  simp

end RoamTuning.Text
