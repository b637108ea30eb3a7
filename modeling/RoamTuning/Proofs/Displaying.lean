import RoamTuning.Proofs.Language

/-!
# Texts as they are displayed

A displayed text is the text itself, character by character, with a question mark for
each character that no override text has; of a long text only the front is displayed,
and three points. A text that was cut is still too long to be shown whole. If it is
displayed again it is cut where it was cut before, which takes the points away and puts
them back.

Results:

* `isShown_iff`: the characters that are shown, as ranges.
* `getElem?_display`: a displayed text position by position.
* `display_display`: displaying a text twice is displaying it once.
* `sanitize_faithful`: all of this about texts.
-/

namespace RoamTuning.Override

/-! ## Characters -/

/-- The characters that override text is made of. -/
def InAlphabet (c : Char) : Prop :=
  ('A' ≤ c ∧ c ≤ 'Z') ∨ ('a' ≤ c ∧ c ≤ 'z') ∨ ('0' ≤ c ∧ c ≤ '9')
    ∨ c ∈ ['_', '=', ',', ':', '.', '+', '-']

instance : DecidablePred InAlphabet := fun _ => inferInstanceAs (Decidable (_ ∨ _ ∨ _ ∨ _))

theorem isShown_iff {c : Char} : isShown c = true ↔ InAlphabet c := by
  have letter : c.isAlpha = (c.isUpper || c.isLower) := rfl
  simp only [isShown, continuesKey, startsKey, inValue, letter, isUpper_eq, isLower_eq, isDigit_eq,
    InAlphabet, Bool.or_eq_true, decide_eq_true_eq, beq_iff_eq, List.mem_cons, List.not_mem_nil,
    or_false]
  grind

/-- A character as it is shown, said by the alphabet. -/
theorem shownChar_eq (c : Char) : shownChar c = if InAlphabet c then c else '?' := by
  simp only [shownChar, isShown_iff]

/-- A question mark stands for itself, although it is not in the alphabet. -/
theorem shownChar_shownChar (c : Char) : shownChar (shownChar c) = shownChar c := by
  cases h : isShown c with
  | true =>
    have kept : shownChar c = c := if_pos h
    rw [kept, kept]
  | false =>
    have replaced : shownChar c = '?' := if_neg (by simp [h])
    rw [replaced]
    rfl

theorem map_shownChar_map (cs : List Char) :
    (cs.map shownChar).map shownChar = cs.map shownChar := by
  rw [List.map_map]
  exact List.map_congr_left fun c _ => shownChar_shownChar c

/-! ## Displayed texts -/

theorem length_display (cs : List Char) :
    (display cs).length = if cs.length ≤ displayLimit then cs.length else displayLimit + 1 := by
  by_cases short : cs.length ≤ displayLimit
  · rw [display_of_short short, List.length_map, if_pos short]
  · rw [display_of_long (by omega), if_neg short, List.length_append, List.length_take,
      List.length_map]
    simp only [displayCut, displayLimit, List.length_cons, List.length_nil] at short ⊢
    omega

/-- What stands at a position of a displayed text, unless it is cut off. -/
theorem getElem?_display {cs : List Char} {i : Nat}
    (h : cs.length ≤ displayLimit ∨ i < displayCut) : (display cs)[i]? = cs[i]?.map shownChar := by
  by_cases short : cs.length ≤ displayLimit
  · rw [display_of_short short, List.getElem?_map]
  · have inFront : i < displayCut := h.resolve_left short
    have long : displayLimit < cs.length := by omega
    have within : i < ((cs.map shownChar).take displayCut).length := by
      rw [List.length_take, List.length_map]
      simp only [displayLimit, displayCut] at long inFront ⊢
      omega
    rw [display_of_long long, List.getElem?_append_left within, List.getElem?_take_of_lt inFront,
      List.getElem?_map]

/-- **Displaying a text twice is displaying it once.** -/
theorem display_display (cs : List Char) : display (display cs) = display cs := by
  by_cases short : cs.length ≤ displayLimit
  · have again : (display cs).length ≤ displayLimit := by
      rw [length_display, if_pos short]
      exact short
    rw [display_of_short again, display_of_short short, map_shownChar_map]
  · have again : displayLimit < (display cs).length := by
      rw [length_display, if_neg short]
      omega
    have long : displayLimit < cs.length := by omega
    have front : ((cs.map shownChar).take displayCut).length = displayCut := by
      rw [List.length_take, List.length_map]
      simp only [displayLimit, displayCut] at long ⊢
      omega
    -- the cut falls between the front and the points, and the front is shown as it is
    rw [display_of_long again, display_of_long long, List.map_append, List.take_append_of_le_length
      (by rw [List.length_map, front]), List.map_take, map_shownChar_map, List.take_take, min_self]

/-- A text that passes the grammar check is displayed as it is, unless it is cut. -/
theorem display_of_accepts {text : String} (h : accepts text = true)
    (short : text.toList.length ≤ displayLimit) : display text.toList = text.toList := by
  rw [display_of_short short]
  exact (List.map_congr_left fun c hc => if_pos (isShown_of_accepts h hc)).trans (List.map_id _)

/-! ## Sanitized texts -/

theorem toList_sanitize (text : String) : (sanitize text).toList = display text.toList := by
  rw [sanitize, String.toList_ofList]

/-- **A sanitized text is faithful, bounded and stable.** It is as long as the text if that
    has at most 100 characters, and else made of 98 characters and three points. Its
    characters are those of the text, or question marks. Sanitizing it again changes
    nothing, and short texts that pass the grammar check are not changed at all. -/
theorem sanitize_faithful (text : String) :
    (sanitize text).length = (if text.length ≤ 100 then text.length else 101)
      ∧ (100 < text.length → ∃ front : String, front.length = 98 ∧ sanitize text = front ++ "...")
      ∧ (∀ i c, text.toList[i]? = some c → text.length ≤ 100 ∨ i < 98 →
        (sanitize text).toList[i]? = some (if InAlphabet c then c else '?'))
      ∧ sanitize (sanitize text) = sanitize text
      ∧ (text.length ≤ 100 → checkGrammar text = .ok () → sanitize text = text) := by
  refine ⟨?_, fun long => ?_, fun i c at_i kept => ?_, ?_, fun short passes => ?_⟩
  · rw [← String.length_toList, toList_sanitize, length_display, String.length_toList]
    rfl
  · refine ⟨String.ofList ((text.toList.map shownChar).take displayCut), ?_, ?_⟩
    · rw [String.length_ofList, List.length_take, List.length_map, String.length_toList]
      simp only [displayCut]
      omega
    · rw [sanitize, display_of_long (by rw [String.length_toList]; exact long),
        String.ofList_append]
  · rw [toList_sanitize, getElem?_display (by rw [String.length_toList]; exact kept), at_i,
      Option.map_some, shownChar_eq]
  · rw [sanitize, toList_sanitize, display_display, ← sanitize]
  · rw [checkGrammar_eq_ok_iff] at passes
    rw [sanitize, display_of_accepts passes (by rw [String.length_toList]; exact short),
      String.ofList_toList]

theorem sanitize_faithful_cut :
    100 < (String.ofList (List.replicate 150 '$')).length
      ∧ (∃ front : String, front.length = 98
        ∧ sanitize (String.ofList (List.replicate 150 '$')) = front ++ "...")
      ∧ sanitize "horizon=20" = "horizon=20" := by
  have long : 100 < (String.ofList (List.replicate 150 '$')).length := by
    rw [String.length_ofList, List.length_replicate]
    omega
  obtain ⟨-, cut, -⟩ := sanitize_faithful (String.ofList (List.replicate 150 '$'))
  obtain ⟨-, -, -, -, whole⟩ := sanitize_faithful "horizon=20"
  exact ⟨long, cut long, whole (by decide) (by decide)⟩

-- what is no character of an override is shown as a question mark
example : sanitize "a b;c\né" = "a?b?c??" := by decide

end RoamTuning.Override
