import Mathlib.Computability.Language
import RoamTuning.Override.Grammar
import RoamTuning.Proofs.Rendering

/-!
# The grammar as a pattern

The grammar of override text is a pattern: any number of pairs, each behind a comma, make
up the text with a comma in front. What the check accepts is this language, and it is the
texts each of whose pieces is a pair. Such a text has no other characters than those that
are shown, and a reader of pairs divides it without passing over a piece or trimming one.

Results:

* `mem_ledPair_iff`: a comma and a pair.
* `mem_kstar_ledPair_iff`: the pattern, said about the pieces of a text.
* `wellFormed_of_accepts`: what holds of texts that pass the check.
* `checkGrammar_language`: what the check accepts.
-/

namespace RoamTuning.Override

open Text
open scoped Computability

/-! ## The pattern -/

/-- The characters from one to another. -/
def between (a b : Char) : Language Char := {cs | ∃ c, cs = [c] ∧ a ≤ c ∧ c ≤ b}

/-- A single character. -/
def exactly (a : Char) : Language Char := {[a]}

/-- The first character of a key. -/
def keyStart : Language Char := between 'A' 'Z' + between 'a' 'z' + exactly '_'

/-- A further character of a key. -/
def keyRest : Language Char := keyStart + between '0' '9'

/-- A character of a value. -/
def valueChar : Language Char :=
  between '0' '9' + exactly '.' + exactly ':' + exactly '+' + exactly '-'

/-- A pair with a comma in front. -/
def ledPair : Language Char :=
  exactly ',' * (keyStart * keyRest∗) * exactly '=' * (valueChar * valueChar∗)

/-! ## Classes of characters -/

/-- The characters of a class. -/
def charOf (p : Char → Bool) : Language Char := {cs | ∃ c, cs = [c] ∧ p c = true}

theorem charOf_add (p q : Char → Bool) : charOf p + charOf q = charOf fun c => p c || q c := by
  ext cs
  rw [Language.mem_add]
  constructor
  · rintro (⟨c, rfl, h⟩ | ⟨c, rfl, h⟩)
    · exact ⟨c, rfl, Bool.or_eq_true_iff.2 (.inl h)⟩
    · exact ⟨c, rfl, Bool.or_eq_true_iff.2 (.inr h)⟩
  · rintro ⟨c, rfl, h⟩
    rcases Bool.or_eq_true_iff.1 h with h | h
    · exact .inl ⟨c, rfl, h⟩
    · exact .inr ⟨c, rfl, h⟩

theorem exactly_eq_charOf (a : Char) : exactly a = charOf (· == a) := by
  ext cs
  constructor
  · rintro rfl
    exact ⟨a, rfl, beq_self_eq_true a⟩
  · rintro ⟨c, rfl, h⟩
    rw [eq_of_beq h]
    rfl

theorem between_eq_charOf (a b : Char) : between a b = charOf fun c => decide (a ≤ c ∧ c ≤ b) := by
  ext cs
  simp [between, charOf]

theorem isUpper_eq (c : Char) : c.isUpper = decide ('A' ≤ c ∧ c ≤ 'Z') :=
  decide_eq_decide.2 Iff.rfl

theorem isLower_eq (c : Char) : c.isLower = decide ('a' ≤ c ∧ c ≤ 'z') :=
  (Bool.decide_and ..).symm.trans (decide_eq_decide.2 Iff.rfl)

theorem isDigit_eq (c : Char) : c.isDigit = decide ('0' ≤ c ∧ c ≤ '9') :=
  (Bool.decide_and ..).symm.trans (decide_eq_decide.2 Iff.rfl)

theorem keyStart_eq_charOf : keyStart = charOf startsKey := by
  rw [keyStart, between_eq_charOf, between_eq_charOf, exactly_eq_charOf, charOf_add, charOf_add]
  simp only [← isUpper_eq, ← isLower_eq]
  rfl

theorem keyRest_eq_charOf : keyRest = charOf continuesKey := by
  rw [keyRest, keyStart_eq_charOf, between_eq_charOf, charOf_add]
  simp only [← isDigit_eq]
  rfl

theorem valueChar_eq_charOf : valueChar = charOf inValue := by
  simp only [valueChar, between_eq_charOf, exactly_eq_charOf, charOf_add, ← isDigit_eq]
  rfl

theorem mem_kstar_charOf_iff {p : Char → Bool} {cs : List Char} :
    cs ∈ (charOf p)∗ ↔ ∀ c ∈ cs, p c = true := by
  rw [Language.mem_kstar]
  constructor
  · rintro ⟨parts, rfl, h⟩ c hc
    obtain ⟨part, mem, hc⟩ := List.mem_flatten.1 hc
    obtain ⟨d, rfl, hd⟩ := h part mem
    exact List.mem_singleton.1 hc ▸ hd
  · intro h
    refine ⟨cs.map fun c => [c], (List.flatMap_singleton' cs).symm, fun part mem => ?_⟩
    obtain ⟨c, hc, rfl⟩ := List.mem_map.1 mem
    exact ⟨c, rfl, h c hc⟩

theorem mem_charOf_mul_kstar_iff {p q : Char → Bool} {cs : List Char} :
    cs ∈ charOf p * (charOf q)∗ ↔ ∃ c r, cs = c :: r ∧ p c = true ∧ ∀ d ∈ r, q d = true := by
  rw [Language.mem_mul]
  constructor
  · rintro ⟨_, ⟨c, rfl, hc⟩, r, hr, rfl⟩
    exact ⟨c, r, rfl, hc, mem_kstar_charOf_iff.1 hr⟩
  · rintro ⟨c, r, rfl, hc, hr⟩
    exact ⟨[c], ⟨c, rfl, hc⟩, r, mem_kstar_charOf_iff.2 hr, rfl⟩

/-- The pattern of a pair, said without it. -/
theorem mem_ledPair_iff {cs : List Char} :
    cs ∈ ledPair ↔ ∃ piece, cs = ',' :: piece ∧ IsPair piece := by
  rw [ledPair, keyStart_eq_charOf, keyRest_eq_charOf, valueChar_eq_charOf]
  constructor
  · rintro ⟨_, ⟨_, ⟨_, rfl, _, key, rfl⟩, _, rfl, rfl⟩, _, value, rfl⟩
    obtain ⟨first, rest, rfl, starts, continues⟩ := mem_charOf_mul_kstar_iff.1 key
    obtain ⟨c, r, rfl, hc, hr⟩ := mem_charOf_mul_kstar_iff.1 value
    have values : ∀ d ∈ c :: r, inValue d = true := List.forall_mem_cons.2 ⟨hc, hr⟩
    exact ⟨first :: rest ++ '=' :: c :: r, by simp,
      first, rest, c :: r, rfl, starts, continues, by simp, values⟩
  · rintro ⟨_, rfl, first, rest, value, rfl, starts, continues, nonempty, values⟩
    obtain ⟨c, r, rfl⟩ := List.exists_cons_of_ne_nil nonempty
    obtain ⟨hc, hr⟩ := List.forall_mem_cons.1 values
    have key : first :: rest ∈ charOf startsKey * (charOf continuesKey)∗ :=
      mem_charOf_mul_kstar_iff.2 ⟨first, rest, rfl, starts, continues⟩
    have value : c :: r ∈ charOf inValue * (charOf inValue)∗ :=
      mem_charOf_mul_kstar_iff.2 ⟨c, r, rfl, hc, hr⟩
    exact ⟨_, ⟨_, ⟨_, rfl, _, key, rfl⟩, _, rfl, rfl⟩, _, value, by simp⟩

/-! ## Pairs behind commas -/

theorem comma_not_mem_of_isPair {piece : List Char} (h : IsPair piece) : ',' ∉ piece := by
  obtain ⟨writable, chars⟩ := writable_of_isPair h
  exact chars ▸ writable.comma_not_mem

/-- The repeated pattern describes the pieces of the text behind its first comma. -/
theorem mem_kstar_ledPair_iff {cs : List Char} :
    ',' :: cs ∈ ledPair∗ ↔ ∀ piece ∈ pieces .comma cs, IsPair piece := by
  rw [Language.mem_kstar, Delimiter.comma_eq_single]
  constructor
  · rintro ⟨parts, whole, h⟩
    have led : (parts.map List.tail).map (',' :: ·) = parts := by
      rw [List.map_map]
      refine (List.map_congr_left fun part mem => ?_).trans (List.map_id parts)
      obtain ⟨piece, rfl, -⟩ := mem_ledPair_iff.1 (h part mem)
      rfl
    have pairs : ∀ piece ∈ parts.map List.tail, IsPair piece := by
      intro piece mem
      obtain ⟨part, inParts, rfl⟩ := List.mem_map.1 mem
      obtain ⟨piece, rfl, pair⟩ := mem_ledPair_iff.1 (h part inParts)
      exact pair
    have nonempty : parts.map List.tail ≠ [] := by
      intro none
      rw [List.map_eq_nil_iff.1 none] at whole
      cases whole
    have divided : pieces (.single ',') cs = parts.map List.tail :=
      pieces_of_flatten nonempty (fun piece mem => comma_not_mem_of_isPair (pairs piece mem))
        (by rw [led, whole])
    exact divided ▸ pairs
  · intro h
    refine ⟨_, (flatten_pieces_single ',' cs).symm, fun part mem => ?_⟩
    obtain ⟨piece, inPieces, rfl⟩ := List.mem_map.1 mem
    exact mem_ledPair_iff.2 ⟨piece, rfl, h piece inPieces⟩

/-! ## Texts that pass the check -/

theorem isBlank_of_isShown {c : Char} (h : isShown c = true) : isBlank c = false := by
  simp only [isShown, Bool.or_eq_true, beq_iff_eq] at h
  rcases h with ((key | value) | rfl) | rfl
  · exact isBlank_of_continuesKey key
  · exact isBlank_of_inValue value
  · decide
  · decide

theorem isShown_of_mem_of_isPair {piece : List Char} (h : IsPair piece) {c : Char}
    (hc : c ∈ piece) : isShown c = true := by
  obtain ⟨first, key, value, rfl, starts, continues, -, values⟩ := h
  simp only [isShown, Bool.or_eq_true, beq_iff_eq]
  rcases List.mem_append.1 hc with inKey | behind
  · rcases List.mem_cons.1 inKey with rfl | inKey
    · exact .inl (.inl (.inl (Bool.or_eq_true_iff.2 (.inl starts))))
    · exact .inl (.inl (.inl (continues c inKey)))
  · rcases List.mem_cons.1 behind with rfl | inside
    · exact .inl (.inr rfl)
    · exact .inl (.inl (.inr (values c inside)))

/-- What holds of texts that pass the check. -/
structure WellFormed (text : String) : Prop where
  ne_empty : text ≠ ""
  /-- All characters are shown as themselves, and so none is a blank or ends a line. -/
  shown : ∀ c ∈ text.toList, isShown c = true
  unblank : ∀ c ∈ text.toList, isBlank c = false
  last_ne : text.toList.getLast? ≠ some '\n'
  /-- Each piece is the key and the value of one pair with the sign between them, -/
  pieces_eq : pieces .comma text.toList = (writtenPairs text).map fun e => (assignment e).toList
  /-- and these pairs are what any reader puts into its table that divides at commas. -/
  read_eq : ∀ r : PairReader, r.delimiter = .text "," →
    r.read text = ({ r with table := Table.ofPairs (writtenPairs text) }, .ok ())

theorem isShown_of_accepts {text : String} (h : accepts text = true) {c : Char}
    (hc : c ∈ text.toList) : isShown c = true := by
  rw [accepts_iff_forall_isPair] at h
  rcases eq_or_mem_of_mem_pieces (a := ',') hc with rfl | ⟨piece, mem, inside⟩
  · decide
  · exact isShown_of_mem_of_isPair (h piece mem) inside

/-- **A text that passes the check is divided as it is written.** -/
theorem wellFormed_of_accepts {text : String} (h : accepts text = true) : WellFormed text := by
  have shown : ∀ c ∈ text.toList, isShown c = true := fun c hc => isShown_of_accepts h hc
  have unblank : ∀ c ∈ text.toList, isBlank c = false := fun c hc => isBlank_of_isShown (shown c hc)
  refine ⟨?_, shown, unblank, fun last => ?_, ?_, fun r comma => ?_⟩
  · rintro rfl
    cases h
  · have newline : isBlank '\n' = false := unblank '\n' (List.mem_of_getLast? last)
    exact absurd newline (by decide)
  · have written : ∀ piece ∈ pieces .comma text.toList,
        (assignment (writtenPair piece)).toList = piece := fun piece mem =>
      (writable_of_isPair (accepts_iff_forall_isPair.1 h piece mem)).2
    rw [writtenPairs, List.map_map]
    exact ((List.map_congr_left written).trans (List.map_id _)).symm
  · have read : readPairs r.delimiter text = .ok (Table.ofPairs (writtenPairs text)) := by
      rw [comma, readPairs_text (d := .comma) rfl, pairTable, pairsOf_of_accepts h]
    rw [PairReader.read, read]

/-- **What the check accepts.** A text passes exactly if, with a comma in front, it is made
    of pairs each behind a comma, and that is if each of its pieces between commas is a
    pair. Any other text is refused as a whole, and one that passes is divided
    into its pairs as they are written. -/
theorem checkGrammar_language (text : String) :
    (checkGrammar text = .ok () ↔ ',' :: text.toList ∈ ledPair∗)
      ∧ (checkGrammar text = .ok () ↔ ∀ piece ∈ pieces .comma text.toList, IsPair piece)
      ∧ (checkGrammar text = .error (.malformed text)
        ↔ ∃ piece ∈ pieces .comma text.toList, ¬ IsPair piece)
      ∧ (checkGrammar text = .ok () → WellFormed text) := by
  have accepted : checkGrammar text = .ok () ↔ ∀ piece ∈ pieces .comma text.toList, IsPair piece :=
    checkGrammar_eq_ok_iff.trans accepts_iff_forall_isPair
  have refused : checkGrammar text = .error (.malformed text) ↔ ¬ checkGrammar text = .ok () := by
    rw [checkGrammar]
    split <;> simp
  refine ⟨accepted.trans mem_kstar_ledPair_iff.symm, accepted, ?_, fun h => ?_⟩
  · simp only [refused, accepted, not_forall, exists_prop]
  · exact wellFormed_of_accepts (checkGrammar_eq_ok_iff.1 h)

-- an empty piece, a second sign, a digit of another script and a line end are all refused
example : ["a=1", "a=1,", "a=1=2", "a=٣", "a=1\n"].map accepts
    = [true, false, false, false, false] := by decide +kernel

end RoamTuning.Override
