import Mathlib.Algebra.Group.Nat.Defs
import Mathlib.Data.List.TakeWhile
import RoamTuning.Numeral.Tidied

/-!
# Integers that are written and read back

An integer is written with a minus sign where it is negative and then its
decimal digits, which is a plain numeral. The strict reader accepts what was
written exactly when the value has 32 bits. The reader of documents accepts it
as long as its digits are not too many.

Results:

* `text_injective`: no two integers are written alike.
* `readWord_eq_ok_iff`: what the strict reader accepts, and with which value.
* `readWord_text_eq_ok_iff`: an integer is read back exactly when it has 32 bits.
* `readTidied_chars`: which integers the reader of documents reads back.
-/

namespace RoamTuning.Numeral

open RoamTuning.Text

/-! ## The digits that are written -/

theorem isAsciiDigit_of_mem_digits {n : Nat} {c : Char} (h : c ∈ digits n) :
    isAsciiDigit c = true := by
  have digit : c.isDigit = true := Nat.isDigit_of_mem_toDigits (by omega) (by omega) h
  rw [Char.isDigit_iff_toNat] at digit
  simpa [isAsciiDigit] using digit

theorem digits_ne_nil (n : Nat) : digits n ≠ [] := Nat.toDigits_ne_nil

theorem valueOf_digits (n : Nat) : valueOf ((digits n).map fun c => c.toNat - 0x30) = n := by
  have := Nat.ofDigitChars_ten_toDigits (n := n)
  rw [Nat.ofDigitChars_eq_foldl] at this
  rw [valueOf, List.foldl_map]
  exact this

theorem length_digits_le_iff {n k : Nat} (h : 0 < k) : (digits n).length ≤ k ↔ n < 10 ^ k :=
  Nat.length_toDigits_le_iff (by omega) h

/-- The integers that are written are those below a power of ten. -/
theorem isShort_iff {n : Int} : IsShort n ↔ n.natAbs < 10 ^ digitLimit :=
  length_digits_le_iff (by decide)

theorem isShort_of_lt {n : Int} {k : Nat} (few : k ≤ digitLimit) (h : n.natAbs < 10 ^ k) :
    IsShort n :=
  isShort_iff.2 (Nat.lt_of_lt_of_le h (Nat.pow_le_pow_right (by omega) few))

/-- The least positive integer that is too long to be written. -/
def leastLong : Int := (10 ^ digitLimit : Nat)

theorem not_isShort_leastLong : ¬ IsShort leastLong := by
  rw [isShort_iff, leastLong, Int.natAbs_natCast]
  exact Nat.lt_irrefl _

/-- A text that starts with a digit has no sign. -/
theorem splitSign_of_isAsciiDigit {cs : List Char} (h : ∀ c ∈ cs, isAsciiDigit c = true) :
    splitSign cs = (false, cs) := by
  cases cs with
  | nil => rfl
  | cons c r =>
    have digit := h c (by simp)
    unfold splitSign
    split
    · rename_i e
      cases e
      exact absurd digit (by decide)
    · rename_i e
      cases e
      exact absurd digit (by decide)
    · rfl

/-! ## Integers that are written -/

theorem splitSign_chars (n : Int) : splitSign (chars n) = (decide (n < 0), digits n.natAbs) := by
  cases n with
  | ofNat k => exact splitSign_of_isAsciiDigit fun c hc => isAsciiDigit_of_mem_digits hc
  | negSucc k => simp [chars, splitSign, Int.negSucc_lt_zero]

theorem mem_chars {n : Int} {c : Char} (h : c ∈ chars n) : c = '-' ∨ isAsciiDigit c = true := by
  cases n with
  | ofNat k => exact .inr (isAsciiDigit_of_mem_digits h)
  | negSucc k =>
    rcases List.mem_cons.1 h with rfl | h
    · exact .inl rfl
    · exact .inr (isAsciiDigit_of_mem_digits h)

theorem chars_ne_nil (n : Int) : chars n ≠ [] := by
  cases n with
  | ofNat k => exact digits_ne_nil k
  | negSucc k => exact List.cons_ne_nil _ _

theorem isPlain_chars (n : Int) : isPlain (chars n) = true := by
  have all : (digits n.natAbs).all isAsciiDigit = true :=
    List.all_eq_true.2 fun c hc => isAsciiDigit_of_mem_digits hc
  simp [isPlain, splitSign_chars, all, digits_ne_nil]

theorem plainValue_chars (n : Int) : plainValue (chars n) = n := by
  simp only [plainValue, splitSign_chars, valueOf_digits, withSign, decide_eq_true_eq]
  split <;> omega

/-- No two integers are written alike, whatever their size. -/
theorem text_injective : Function.Injective text := by
  intro n m same
  have chars : chars n = chars m := String.ofList_injective same
  rw [← plainValue_chars n, chars, plainValue_chars]

/-! ## The strict reader -/

/-- Whether an integer has 32 bits. -/
def IsWord (n : Int) : Prop := wordMin ≤ n ∧ n ≤ wordMax

theorem readWord_eq_ok_iff {t : String} {n : Int} :
    readWord t = .ok n ↔ isPlain t.toList = true ∧ (splitSign t.toList).2.length ≤ digitLimit
      ∧ plainValue t.toList = n ∧ wordMin ≤ n ∧ n ≤ wordMax := by
  unfold readWord
  simp only
  constructor
  · intro h
    split at h
    · cases h
    · rename_i plain
      split at h
      · cases h
      · split at h
        · cases h
        · rename_i few range
          obtain rfl := Except.ok.inj h
          refine ⟨by simpa using plain, by omega, rfl, ?_, ?_⟩ <;> omega
  · rintro ⟨plain, few, rfl, low, high⟩
    rw [if_neg (by simp [plain]), if_neg (by omega), if_neg (by omega)]

/-- The digits of an integer of 32 bits are never too many. -/
theorem isShort_of_word {n : Int} (low : wordMin ≤ n) (high : n ≤ wordMax) : IsShort n := by
  unfold wordMin at low
  unfold wordMax at high
  exact isShort_of_lt (show 10 ≤ digitLimit by decide) (by omega)

/-- **Exactly the integers of 32 bits are read back.** -/
theorem readWord_text_eq_ok_iff {n m : Int} : readWord (text n) = .ok m ↔ m = n ∧ IsWord n := by
  rw [readWord_eq_ok_iff]
  simp only [text, String.toList_ofList, isPlain_chars, splitSign_chars, plainValue_chars,
    true_and]
  constructor
  · rintro ⟨-, rfl, word⟩
    exact ⟨rfl, word⟩
  · rintro ⟨rfl, low, high⟩
    exact ⟨isShort_of_word low high, rfl, low, high⟩

/-! ## The reader of documents -/

/-- The first digit is a zero only if the number is zero. -/
theorem exists_leading_digit {n : Nat} (positive : 0 < n) :
    ∃ c r, digits n = c :: r ∧ isLeadingDigit c = true := by
  induction n using Nat.strongRecOn with
  | ind n ih =>
    by_cases small : n < 10
    · refine ⟨Nat.digitChar n, [], Nat.toDigits_of_lt_base small, ?_⟩
      have single : ∀ d < 10, 0 < d → isLeadingDigit (Nat.digitChar d) = true := by decide
      exact single n small positive
    · obtain ⟨c, r, e, leading⟩ := ih (n / 10) (by omega) (by omega)
      refine ⟨c, r ++ [Nat.digitChar (n % 10)], ?_, leading⟩
      rw [digits, Nat.toDigits_of_base_le (by omega) (by omega), ← digits, e, List.cons_append]

theorem splitMinus_chars (n : Int) :
    splitMinus (chars n) = (decide (n < 0), digits n.natAbs) := by
  have sign := splitSign_chars n
  cases n with
  | ofNat k =>
    have first : ∀ c r, digits k = c :: r → c ≠ '-' := by
      rintro c r e rfl
      exact absurd (isAsciiDigit_of_mem_digits (n := k) (c := '-') (e ▸ List.mem_cons_self))
        (by decide)
    simp only [chars] at sign ⊢
    cases e : digits k with
    | nil => exact absurd e (digits_ne_nil k)
    | cons c r => simp [splitMinus, first c r e, e]
  | negSucc k => simp [chars, splitMinus, Int.negSucc_lt_zero]

theorem readWhole_chars (n : Int) :
    readWhole (chars n) = if IsShort n then .ok n else .error .tooManyDigits := by
  have all : (digits n.natAbs).takeWhile isAsciiDigit = digits n.natAbs :=
    List.takeWhile_eq_self_iff.2 fun c hc => isAsciiDigit_of_mem_digits hc
  simp only [readWhole, splitMinus_chars, all, valueOf_digits]
  by_cases zero : n = 0
  · subst zero
    rfl
  · obtain ⟨c, r, e, leading⟩ := exists_leading_digit (n := n.natAbs) (by omega)
    have notZero : digits n.natAbs ≠ ['0'] := by
      intro h
      rw [e] at h
      obtain ⟨rfl, -⟩ := List.cons.inj h
      exact absurd leading (by decide)
    rw [if_neg notZero, if_neg (by simp [e, leading])]
    by_cases short : IsShort n
    · rw [if_pos short, if_neg (Nat.not_lt.2 short), if_pos trivial]
      simp only [withSign, decide_eq_true_eq]
      split <;> exact congrArg Except.ok (by omega)
    · rw [if_neg short, if_pos (Nat.lt_of_not_le short)]

/-- **The reader of documents reads back every integer that is written in few
    enough digits**, and says of any other that it has too many. -/
theorem readTidied_chars (n : Int) :
    readTidied (chars n) = if IsShort n then .ok n else .error .tooManyDigits := by
  rw [readTidied, readWhole_chars]
  by_cases short : IsShort n
  · rw [if_pos short]
  · rw [if_neg short]

end RoamTuning.Numeral
