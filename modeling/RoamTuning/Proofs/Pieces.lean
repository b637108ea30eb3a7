import RoamTuning.Text.Characters
import RoamTuning.Text.Pieces

/-!
# Pieces between single characters

Dividing a text at a character and writing its pieces one after the other, with
the character between neighbours, undo each other.

Results:

* `pieces_single_append`: the first piece ends at the first delimiter.
* `pieces_single_join`: the pieces of two texts with the delimiter between them.
* `not_mem_of_mem_pieces`: no piece has the delimiter in it.
* `flatten_pieces_single`, `pieces_of_flatten`: a text and its pieces, each behind a
  delimiter.
* `pieces_joined`: texts without the delimiter are the pieces of their joining.
* `trimBy_eq_self_of_forall`: a text without blanks is not trimmed.
-/

namespace RoamTuning.Text

/-- The delimiter that is a single character. -/
def Delimiter.single (a : Char) : Delimiter := ⟨a, []⟩

theorem Delimiter.comma_eq_single : Delimiter.comma = .single ',' := rfl

theorem Delimiter.colon_eq_single : Delimiter.colon = .single ':' := rfl

/-! ## Dividing -/

theorem pieces_single_cons (a c : Char) (r : List Char) :
    pieces (.single a) (c :: r)
      = if c = a then [] :: pieces (.single a) r else onFirst c (pieces (.single a) r) := by
  have found : (Delimiter.single a).chars.isPrefixOf (c :: r) = decide (c = a) := by
    simp only [Delimiter.chars, Delimiter.single, List.isPrefixOf, Bool.and_true]
    rw [Bool.eq_iff_iff, beq_iff_eq, decide_eq_true_eq]
    exact eq_comm
  simp only [pieces, piecesFrom, found, decide_eq_true_eq]
  rfl

theorem pieces_single_of_not_mem {a : Char} {u : List Char} (h : a ∉ u) :
    pieces (.single a) u = [u] := by
  induction u with
  | nil => rfl
  | cons c r ih =>
    have hc : c ≠ a := fun e => h (by simp [e])
    have hr : a ∉ r := fun e => h (by simp [e])
    rw [pieces_single_cons, if_neg hc, ih hr]
    rfl

/-- The first piece ends at the first delimiter. -/
theorem pieces_single_append {a : Char} {u : List Char} (h : a ∉ u) (v : List Char) :
    pieces (.single a) (u ++ a :: v) = u :: pieces (.single a) v := by
  induction u with
  | nil => rw [List.nil_append, pieces_single_cons, if_pos rfl]
  | cons c r ih =>
    have hc : c ≠ a := fun e => h (by simp [e])
    have hr : a ∉ r := fun e => h (by simp [e])
    rw [List.cons_append, pieces_single_cons, if_neg hc, ih hr]
    rfl

/-- What holds of texts without a delimiter, and of a text that continues one of
    these behind a delimiter, holds of every text. -/
theorem delimited_induction {motive : List Char → Prop} (a : Char)
    (last : ∀ u, a ∉ u → motive u) (more : ∀ u v, a ∉ u → motive v → motive (u ++ a :: v))
    (cs : List Char) : motive cs := by
  cases h : cutAt a cs with
  | none => exact last cs (cutAt_eq_none_iff.1 h)
  | some p =>
    obtain ⟨hu, rfl⟩ := cutAt_eq_some_iff.1 h
    exact more p.1 p.2 hu (delimited_induction a last more p.2)
termination_by cs.length
decreasing_by simp_all; omega

/-- The pieces of two texts with the delimiter between them are those of the first and
    those of the second. -/
theorem pieces_single_join (a : Char) (u v : List Char) :
    pieces (.single a) (u ++ a :: v) = pieces (.single a) u ++ pieces (.single a) v := by
  induction u using delimited_induction a with
  | last u hu =>
    rw [pieces_single_append hu, pieces_single_of_not_mem hu]
    rfl
  | more u w hu ih =>
    rw [List.append_assoc, List.cons_append, pieces_single_append hu, ih, pieces_single_append hu]
    rfl

/-- No piece has the delimiter in it. -/
theorem not_mem_of_mem_pieces {a : Char} {cs piece : List Char}
    (h : piece ∈ pieces (.single a) cs) : a ∉ piece := by
  induction cs using delimited_induction a with
  | last u hu =>
    rw [pieces_single_of_not_mem hu, List.mem_singleton] at h
    exact h ▸ hu
  | more u v hu ih =>
    rw [pieces_single_append hu] at h
    rcases List.mem_cons.1 h with rfl | h
    · exact hu
    · exact ih h

/-- A character is the delimiter, or it is in one of the pieces. -/
theorem eq_or_mem_of_mem_pieces {a c : Char} {cs : List Char} (h : c ∈ cs) :
    c = a ∨ ∃ piece ∈ pieces (.single a) cs, c ∈ piece := by
  induction cs using delimited_induction a with
  | last u hu =>
    rw [pieces_single_of_not_mem hu]
    exact .inr ⟨u, List.mem_singleton_self u, h⟩
  | more u v hu ih =>
    rw [pieces_single_append hu]
    rcases List.mem_append.1 h with first | behind
    · exact .inr ⟨u, List.mem_cons_self, first⟩
    · rcases List.mem_cons.1 behind with rfl | later
      · exact .inl rfl
      · rcases ih later with delimiter | ⟨piece, mem, inside⟩
        · exact .inl delimiter
        · exact .inr ⟨piece, List.mem_cons_of_mem u mem, inside⟩

/-- The pieces of a text, each behind a delimiter, are the text behind a delimiter. -/
theorem flatten_pieces_single (a : Char) (cs : List Char) :
    ((pieces (.single a) cs).map (a :: ·)).flatten = a :: cs := by
  induction cs using delimited_induction a with
  | last u hu =>
    rw [pieces_single_of_not_mem hu]
    simp
  | more u v hu ih =>
    rw [pieces_single_append hu, List.map_cons, List.flatten_cons, ih]
    rfl

/-- Texts without the delimiter that make up a text, each behind a delimiter, are its
    pieces. -/
theorem pieces_of_flatten {a : Char} {ps : List (List Char)} (nonempty : ps ≠ [])
    (h : ∀ p ∈ ps, a ∉ p) {cs : List Char} (whole : (ps.map (a :: ·)).flatten = a :: cs) :
    pieces (.single a) cs = ps := by
  induction ps generalizing cs with
  | nil => exact absurd rfl nonempty
  | cons p r ih =>
    obtain ⟨hp, hr⟩ := List.forall_mem_cons.1 h
    rw [List.map_cons, List.flatten_cons, List.cons_append] at whole
    obtain rfl := (List.cons.inj whole).2
    cases r with
    | nil => simpa using pieces_single_of_not_mem hp
    | cons q r =>
      rw [List.map_cons, List.flatten_cons, List.cons_append, pieces_single_append hp]
      exact congrArg (p :: ·) (ih (by simp) hr rfl)

/-! ## Joining -/

theorem toList_joined_cons (sep s t : String) (r : List String) :
    (joined sep (s :: t :: r)).toList = s.toList ++ sep.toList ++ (joined sep (t :: r)).toList := by
  simp [joined]

theorem mem_joined {sep : String} {ss : List String} {c : Char} (h : c ∈ (joined sep ss).toList) :
    c ∈ sep.toList ∨ ∃ s ∈ ss, c ∈ s.toList := by
  induction ss with
  | nil => cases h
  | cons s r ih =>
    cases r with
    | nil => exact .inr ⟨s, by simp, h⟩
    | cons t r =>
      rw [toList_joined_cons, List.mem_append, List.mem_append] at h
      rcases h with (first | between) | later
      · exact .inr ⟨s, by simp, first⟩
      · exact .inl between
      · rcases ih later with between | ⟨u, hu, inside⟩
        · exact .inl between
        · exact .inr ⟨u, List.mem_cons_of_mem s hu, inside⟩

/-- Texts without the delimiter are the pieces of their joining. -/
theorem pieces_joined {sep : String} {a : Char} (single : sep.toList = [a]) {ss : List String}
    (nonempty : ss ≠ []) (h : ∀ s ∈ ss, a ∉ s.toList) :
    pieces (.single a) (joined sep ss).toList = ss.map String.toList := by
  induction ss with
  | nil => exact absurd rfl nonempty
  | cons s r ih =>
    have hs : a ∉ s.toList := h s (by simp)
    cases r with
    | nil => exact pieces_single_of_not_mem hs
    | cons t r =>
      rw [toList_joined_cons, single, List.append_assoc, List.singleton_append,
        pieces_single_append hs, ih (by simp) fun u hu => h u (List.mem_cons_of_mem _ hu)]
      rfl

/-! ## Trimming -/

/-- A text without characters of a class is not trimmed of them. -/
theorem trimBy_eq_self_of_forall {p : Char → Bool} {cs : List Char}
    (h : ∀ c ∈ cs, p c = false) : trimBy p cs = cs :=
  trimBy_eq_self (fun c hc => h c (List.mem_of_mem_head? hc))
    fun c hc => h c (List.mem_of_getLast? hc)

end RoamTuning.Text
