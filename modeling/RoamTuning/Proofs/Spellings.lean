import Mathlib.Data.List.TakeWhile
import RoamTuning.Defaults.Source
import RoamTuning.Proofs.Numerals

/-!
# Spellings of integers and of truth values

A variable is a text, and one default has many of them. An integer is spelled by its
decimal digits, after a sign and any zeros, with spaces around; a truth value is spelled
by one of its words, in any case, with blanks around. The lenient reader has the integer
back from each of its spellings as long as the digits are not too many, and a switch is on
or off as it is spelled.

The four blanks that are no spaces may stand around a word, but not around an integer.

Results:

* `trimBy_append`: what is trimmed off a text are the characters of the class at its ends.
* `readAny_of_spells`: the lenient reader has the integer back.
* `switchWord_of_spells`: a switch has the word back in lower case.
-/

namespace RoamTuning

open Text Numeral

/-! ## Characters around a text -/

namespace Text

/-- What is trimmed off a text are the characters of the class at its ends. -/
theorem trimBy_append {p : Char → Bool} {before cs after : List Char}
    (left : ∀ c ∈ before, p c = true) (right : ∀ c ∈ after, p c = true)
    (inner : ∀ c ∈ cs, p c = false) : trimBy p (before ++ cs ++ after) = cs := by
  have back : ∀ ds : List Char, (∀ c ∈ ds, p c = false) → ds.dropWhile p = ds := fun ds h =>
    dropWhile_eq_self_of_head fun c hc => h c (List.mem_of_mem_head? hc)
  rw [trimBy, List.append_assoc, List.dropWhile_append_of_pos left]
  cases cs with
  | nil =>
    have gone : after.dropWhile p = [] := List.dropWhile_eq_nil_iff.2 right
    rw [List.nil_append, gone]
    rfl
  | cons c r =>
    have kept : (c :: r ++ after).dropWhile p = c :: r ++ after := by
      rw [List.cons_append, List.dropWhile_cons_of_neg (by simp [inner c (by simp)])]
    rw [kept, List.reverse_append,
      List.dropWhile_append_of_pos fun d hd => right d (List.mem_reverse.1 hd),
      back _ fun d hd => inner d (List.mem_reverse.1 hd), List.reverse_reverse]

/-- The code points of the spaces. -/
def spaceCodes : List Nat := [
  0x9, 0xA, 0xB, 0xC, 0xD, 0x20, 0x85, 0xA0, 0x1680, 0x2000, 0x2001, 0x2002, 0x2003, 0x2004,
  0x2005, 0x2006, 0x2007, 0x2008, 0x2009, 0x200A, 0x2028, 0x2029, 0x202F, 0x205F, 0x3000]

theorem mem_spaceCodes_of_isSpace {c : Char} (h : isSpace c = true) : c.toNat ∈ spaceCodes := by
  simp only [isSpace, Bool.or_eq_true, Bool.and_eq_true, decide_eq_true_eq, beq_iff_eq] at h
  simp only [spaceCodes, List.mem_cons, List.not_mem_nil, or_false]
  omega

/-- No space is a digit of any script. -/
theorem digitValue?_of_isSpace {c : Char} (h : isSpace c = true) : digitValue? c = none := by
  have codes : ∀ n ∈ spaceCodes, (0x30 ≤ n && n ≤ 0x39) = false
      ∧ (foreignZeros.find? fun z => z ≤ n && n ≤ z + 9) = none := by decide +kernel
  obtain ⟨ascii, foreign⟩ := codes _ (mem_spaceCodes_of_isSpace h)
  rw [digitValue?, isAsciiDigit, ascii, foreign]
  rfl

end Text

/-! ## Integers -/

namespace Numeral

/-- What stands around the digits of an integer in one of its spellings. -/
structure Spelling (n : Int) where
  before : List Char
  /-- Whether there is a plus sign; a negative integer has a minus sign instead. -/
  plus : Bool
  zeros : Nat
  after : List Char
  spaces : ∀ c ∈ before ++ after, isSpace c = true
  few : zeros + (digits n.natAbs).length ≤ digitLimit

variable {n : Int}

/-- The sign of an integer in one of its spellings. -/
def Spelling.sign (s : Spelling n) : List Char :=
  if n < 0 then ['-'] else if s.plus then ['+'] else []

/-- The digits of an integer in one of its spellings. -/
def Spelling.figures (s : Spelling n) : List Char :=
  List.replicate s.zeros '0' ++ digits n.natAbs

/-- The text of a spelling. -/
def Spelling.text (s : Spelling n) : String :=
  String.ofList (s.before ++ (s.sign ++ (s.figures ++ s.after)))

theorem Spelling.isAsciiDigit_of_mem (s : Spelling n) {c : Char} (h : c ∈ s.figures) :
    isAsciiDigit c = true := by
  rcases List.mem_append.1 h with zero | digit
  · rw [List.eq_of_mem_replicate zero]
    rfl
  · exact isAsciiDigit_of_mem_digits digit

theorem Spelling.figures_ne_nil (s : Spelling n) : s.figures ≠ [] := fun h =>
  digits_ne_nil _ (List.append_eq_nil_iff.1 h).2

theorem Spelling.length_figures_le (s : Spelling n) : s.figures.length ≤ digitLimit := by
  rw [figures, List.length_append, List.length_replicate]
  exact s.few

/-- Zeros in front are worth nothing. -/
theorem Spelling.valueOf_figures (s : Spelling n) :
    valueOf (s.figures.map fun c => c.toNat - 0x30) = n.natAbs := by
  have zeros : ∀ k, (List.replicate k 0).foldl (fun v d => 10 * v + d) 0 = 0 := by
    intro k
    induction k with
    | zero => rfl
    | succ k ih => rw [List.replicate_succ, List.foldl_cons, ih]
  rw [figures, List.map_append, List.map_replicate, valueOf, List.foldl_append]
  show List.foldl _ ((List.replicate s.zeros 0).foldl (fun v d => 10 * v + d) 0) _ = _
  rw [zeros, ← valueOf, valueOf_digits]

/-- A run of digits is read up to what follows, which is no digit and no low line. -/
theorem digitRun_append {cs after : List Char} (digit : ∀ c ∈ cs, isAsciiDigit c = true)
    (spaces : ∀ c ∈ after, isSpace c = true) {apart : Bool} (begun : cs = [] → apart = false) :
    digitRun apart (cs ++ after) = some (cs.map fun c => c.toNat - 0x30, after) := by
  induction cs generalizing apart with
  | nil =>
    rw [begun rfl]
    cases after with
    | nil => rfl
    | cons c r =>
      have space : isSpace c = true := spaces c (by simp)
      have notLine : (c == '_') = false := by
        rw [beq_eq_false_iff_ne]
        rintro rfl
        exact absurd space (by decide)
      simp [digitRun, notLine, digitValue?_of_isSpace space]
  | cons c r ih =>
    rw [List.forall_mem_cons] at digit
    have notLine : (c == '_') = false := by
      rw [beq_eq_false_iff_ne]
      rintro rfl
      exact absurd digit.1 (by decide)
    have rest : digitRun false (r ++ after) = some (r.map fun c => c.toNat - 0x30, after) :=
      ih digit.2 fun _ => rfl
    simp [digitRun, notLine, digitValue?_ascii digit.1, rest]

theorem Spelling.splitSign_text (s : Spelling n) :
    splitSign (s.sign ++ (s.figures ++ s.after)) = (decide (n < 0), s.figures ++ s.after) := by
  obtain ⟨c, r, first⟩ := List.exists_cons_of_ne_nil s.figures_ne_nil
  have digit : isAsciiDigit c = true := s.isAsciiDigit_of_mem (first ▸ List.mem_cons_self)
  have plain : ∀ a, isAsciiDigit a = false → c ≠ a := by
    rintro a other rfl
    rw [digit] at other
    cases other
  rw [sign]
  by_cases negative : n < 0
  · simp [negative, splitSign]
  · cases s.plus with
    | true => simp [negative, splitSign]
    | false => simp [negative, splitSign, first, plain '-' (by decide), plain '+' (by decide)]

/-- Neither a sign nor a digit is a space. -/
theorem Spelling.isSpace_of_mem (s : Spelling n) {c : Char} (h : c ∈ s.sign ++ s.figures) :
    isSpace c = false := by
  rcases List.mem_append.1 h with sign | digit
  · have signs : c = '-' ∨ c = '+' := by
      rw [Spelling.sign] at sign
      split at sign
      · exact .inl (List.mem_singleton.1 sign)
      · split at sign
        · exact .inr (List.mem_singleton.1 sign)
        · cases sign
    rcases signs with rfl | rfl <;> rfl
  · cases space : isSpace c with
    | false => rfl
    | true =>
      have none := digitValue?_of_isSpace space
      rw [digitValue?_ascii (s.isAsciiDigit_of_mem digit)] at none
      cases none

/-- **The lenient reader has the integer back from each of its spellings.** -/
theorem readAny_spelling (s : Spelling n) : readAny s.text = .ok n := by
  have front : s.text.toList.dropWhile isSpace = s.sign ++ (s.figures ++ s.after) := by
    obtain ⟨c, r, first⟩ := List.exists_cons_of_ne_nil (l := s.sign ++ s.figures)
      (by simp [s.figures_ne_nil])
    have stops : isSpace c = false := s.isSpace_of_mem (first ▸ List.mem_cons_self)
    rw [Spelling.text, String.toList_ofList,
      List.dropWhile_append_of_pos fun c hc => s.spaces c (List.mem_append_left _ hc),
      ← List.append_assoc, first, List.cons_append,
      List.dropWhile_cons_of_neg (by simp [stops])]
  have run : digitRun true (s.figures ++ s.after)
      = some (s.figures.map fun c => c.toNat - 0x30, s.after) :=
    digitRun_append (fun c hc => s.isAsciiDigit_of_mem hc)
      (fun c hc => s.spaces c (List.mem_append_right _ hc)) fun nil => absurd nil s.figures_ne_nil
  have spaces : s.after.all isSpace = true :=
    List.all_eq_true.2 fun c hc => s.spaces c (List.mem_append_right _ hc)
  have few := s.length_figures_le
  simp only [readAny, front, s.splitSign_text, run, List.length_map, s.valueOf_figures, spaces]
  rw [if_neg (by omega), if_pos trivial]
  simp only [withSign, decide_eq_true_eq]
  split <;> exact congrArg Except.ok (by omega)

/-- Whether a text spells an integer. -/
def Spells (n : Int) (text : String) : Prop := ∃ s : Spelling n, s.text = text

theorem readAny_of_spells {text : String} (h : Spells n text) : readAny text = .ok n := by
  obtain ⟨s, rfl⟩ := h
  exact readAny_spelling s

theorem ne_empty_of_spells {text : String} (h : Spells n text) : text ≠ "" := by
  rintro rfl
  have unread : readAny "" = .error (.notLiteral "") := by decide
  cases (readAny_of_spells h).symm.trans unread

end Numeral

/-! ## Truth values -/

/-- The words that stand for a truth value. -/
def truthWords (b : Bool) : List String := if b then onWords else offWords

/-- A word for a truth value in any case, with the blanks around it. -/
structure TruthSpelling (b : Bool) where
  before : List Char
  word : List Char
  after : List Char
  blanks : ∀ c ∈ before ++ after, isBlank c = true
  known : String.ofList (word.map Char.toLower) ∈ truthWords b

namespace TruthSpelling

variable {b : Bool}

/-- The text of a spelling. -/
def text (s : TruthSpelling b) : String := String.ofList (s.before ++ s.word ++ s.after)

/-- The letters of a word in any case are ASCII characters and no blanks. -/
theorem plain_of_mem (s : TruthSpelling b) {c : Char} (h : c ∈ s.word) :
    c.toNat ≤ 0x7F ∧ isBlank c = false := by
  have words : ∀ w ∈ truthWords b,
      w.toList.all (fun d => d.toNat ≤ 0x7F && !isBlank d) = true := by
    cases b <;> decide
  have lower : c.toLower.toNat ≤ 0x7F ∧ isBlank c.toLower = false := by
    simpa using List.all_eq_true.1 (words _ s.known) c.toLower (by simpa using ⟨c, h, rfl⟩)
  cases upper : c.isUpper with
  | true =>
    obtain ⟨low, high⟩ := isUpper_iff_toNat.1 upper
    refine ⟨by omega, ?_⟩
    simp only [isBlank, isSpace, Bool.or_eq_false_iff, Bool.and_eq_false_iff,
      decide_eq_false_iff_not, beq_eq_false_iff_ne]
    omega
  | false =>
    rwa [toLower_of_not_isUpper upper] at lower

/-- A switch has the word back in lower case. -/
theorem switchWord_spelling (s : TruthSpelling b) :
    switchWord s.text = String.ofList (s.word.map Char.toLower) := by
  have trimmed : trimBy isBlank (s.before ++ s.word ++ s.after) = s.word :=
    trimBy_append (fun c hc => s.blanks c (List.mem_append_left _ hc))
      (fun c hc => s.blanks c (List.mem_append_right _ hc)) fun c hc => (s.plain_of_mem hc).2
  rw [switchWord, trim, text, String.toList_ofList, trimmed,
    lower_ascii fun c hc => (s.plain_of_mem hc).1]

end TruthSpelling

/-- Whether a text spells a truth value. -/
def SpellsTruth (b : Bool) (text : String) : Prop := ∃ s : TruthSpelling b, s.text = text

theorem switchWord_of_spells {b : Bool} {text : String} (h : SpellsTruth b text) :
    switchWord text ∈ truthWords b := by
  obtain ⟨s, rfl⟩ := h
  rw [s.switchWord_spelling]
  exact s.known

theorem ne_empty_of_spellsTruth {b : Bool} {text : String} (h : SpellsTruth b text) :
    text ≠ "" := by
  rintro rfl
  have word := switchWord_of_spells h
  have empty : switchWord "" = "" := by decide
  rw [empty] at word
  cases b <;> exact absurd word (by decide)

end RoamTuning
