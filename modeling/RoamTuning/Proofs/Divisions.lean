import Mathlib.Data.List.Infix
import RoamTuning.Text.Pieces

/-!
# Division by a delimiter of any length

A text is divided at the first place where its delimiter stands, and what follows is
divided in the same way. Occurrences of a delimiter may overlap; the one that begins first
is the one that counts. A text has one division, and its pieces are that.

Results:

* `pieces_chars_append`, `pieces_cons`: the pieces of a text by how it begins.
* `divides_iff`: the pieces of a text are its one division.
-/

namespace RoamTuning.Text

/-- How a text is divided by a delimiter. -/
inductive Divides (d : List Char) : List Char → List (List Char) → Prop
  | whole {u : List Char} (absent : ¬ d <:+: u) : Divides d u [u]
  /-- The delimiter begins nowhere before the cut. -/
  | cut {u v : List Char} {ps : List (List Char)}
      (first : ∀ w x, u ++ d ++ v = w ++ d ++ x → u.length ≤ w.length) (rest : Divides d v ps) :
      Divides d (u ++ d ++ v) (u :: ps)

/-! ## Pieces by how a text begins -/

theorem piecesFrom_append (d : Delimiter) (u v : List Char) :
    piecesFrom d u.length (u ++ v) = pieces d v := by
  induction u with
  | nil => rfl
  | cons c r ih => exact ih

/-- A text that begins with the delimiter has an empty piece first. -/
theorem pieces_chars_append (d : Delimiter) (v : List Char) :
    pieces d (d.chars ++ v) = [] :: pieces d v := by
  have found : d.chars.isPrefixOf (d.first :: (d.rest ++ v)) = true :=
    List.isPrefixOf_iff_prefix.2 (List.prefix_append d.chars v)
  rw [pieces, Delimiter.chars, List.cons_append, piecesFrom, if_pos found, piecesFrom_append]

theorem pieces_cons {d : Delimiter} {c : Char} {r : List Char}
    (h : ¬ d.chars <+: c :: r) : pieces d (c :: r) = onFirst c (pieces d r) := by
  rw [← List.isPrefixOf_iff_prefix] at h
  rw [pieces, piecesFrom, if_neg h, pieces]

/-! ## The division -/

/-- A character in front at which the delimiter does not begin belongs to the first piece. -/
theorem Divides.onFirst {d cs : List Char} {ps : List (List Char)} {c : Char}
    (begins : ¬ d <+: c :: cs) (h : Divides d cs ps) : Divides d (c :: cs) (onFirst c ps) := by
  cases h with
  | whole absent =>
    refine .whole fun inside => ?_
    rcases List.infix_cons_iff.1 inside with front | behind
    · exact begins front
    · exact absent behind
  | @cut u v ps first rest =>
    refine .cut (u := c :: u) (fun w x whole => ?_) rest
    cases w with
    | nil => exact absurd ⟨x, whole.symm⟩ begins
    | cons b w => exact Nat.succ_le_succ (first w x (List.cons.inj whole).2)

theorem divides_pieces (d : Delimiter) (cs : List Char) : Divides d.chars cs (pieces d cs) := by
  -- what follows a delimiter, or a character at which none begins, is shorter
  induction n : cs.length using Nat.strongRecOn generalizing cs with
  | ind n ih =>
    cases cs with
    | nil => exact .whole fun inside => by cases List.infix_nil.1 inside
    | cons c r =>
      simp only [List.length_cons] at n
      by_cases begins : d.chars <+: c :: r
      · obtain ⟨v, split⟩ := begins
        have shorter : v.length < r.length + 1 := by
          rw [← List.length_cons (a := c), ← split, List.length_append]
          simp [Delimiter.chars]
        rw [← split, pieces_chars_append]
        exact .cut (u := []) (fun w x _ => Nat.zero_le _) (ih _ (n ▸ shorter) v rfl)
      · rw [pieces_cons begins]
        exact (ih _ (n ▸ Nat.lt_succ_self _) r rfl).onFirst begins

theorem Divides.unique {d cs : List Char} {ps qs : List (List Char)} (h : Divides d cs ps)
    (h' : Divides d cs qs) : ps = qs := by
  induction h generalizing qs with
  | whole absent =>
    cases h' with
    | whole => rfl
    | @cut u v => exact absurd (List.infix_append u d v) absent
  | @cut u v ps first rest ih =>
    generalize whole : u ++ d ++ v = cs at h'
    cases h' with
    | whole absent => exact absurd (whole ▸ List.infix_append u d v) absent
    | @cut u' v' qs first' rest' =>
      have length : u.length = u'.length :=
        Nat.le_antisymm (first u' v' whole) (first' u v whole.symm)
      rw [List.append_assoc, List.append_assoc] at whole
      obtain ⟨rfl, behind⟩ := List.append_inj whole length
      rw [List.append_cancel_left behind] at ih
      rw [ih rest']

/-- **The pieces of a text are its one division.** -/
theorem divides_iff {d : Delimiter} {cs : List Char} {ps : List (List Char)} :
    Divides d.chars cs ps ↔ ps = pieces d cs :=
  ⟨fun h => h.unique (divides_pieces d cs), fun h => h ▸ divides_pieces d cs⟩

-- of two occurrences that overlap the first one counts
example : pieces ⟨'a', ['b', 'a']⟩ "xababay".toList = ["x".toList, "bay".toList] := by decide

end RoamTuning.Text
