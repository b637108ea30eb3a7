import Mathlib.Data.Nat.Digits.Defs
import RoamTuning.Proofs.Rendering

/-!
# Plain numerals

The integers that a table of pairs is asked for are written as plain numerals: a sign or
none, and then ASCII digits, of which there may be no more than the limit. Zeros in front
are worth nothing but count. The strict reader reads exactly the plain numerals of the
integers of 32 bits, each as the number that it stands for in the decimal system.

Results:

* `valueOf_eq_ofDigits`: reading digit by digit is the value of the digits by their places.
* `readWord_eq_ok_iff_denotes`: what the strict reader reads.
* `int?_eq_none_iff`, `ints?_eq_none_iff`: when a look-up for integers finds none.
* `words_read`: all of this, and that what is written in decimal is read back.
-/

namespace RoamTuning

open Text

namespace Numeral

/-! ## Numerals -/

/-- A sign or none, and at least one ASCII digit, but not more than the limit. -/
structure PlainNumeral where
  sign : List Char
  figures : List Char
  signs : sign ∈ [[], ['+'], ['-']]
  ascii : ∀ c ∈ figures, '0' ≤ c ∧ c ≤ '9'
  some_figure : 1 ≤ figures.length
  few : figures.length ≤ 4300

namespace PlainNumeral

def text (s : PlainNumeral) : String := String.ofList (s.sign ++ s.figures)

/-- The figures by their places, the last one being worth what it says. -/
def magnitude (s : PlainNumeral) : Nat :=
  Nat.ofDigits 10 (s.figures.reverse.map fun c => c.toNat - '0'.toNat)

/-- The integer that a numeral stands for. -/
def value (s : PlainNumeral) : Int := if s.sign = ['-'] then -s.magnitude else s.magnitude

end PlainNumeral

/-- Whether a text is a plain numeral of an integer of 32 bits. -/
def Denotes (t : String) (n : Int) : Prop :=
  ∃ s : PlainNumeral, s.text = t ∧ s.value = n ∧ -2 ^ 31 ≤ n ∧ n ≤ 2 ^ 31 - 1

/-! ## Reading -/

theorem isWord_iff {n : Int} : IsWord n ↔ -2 ^ 31 ≤ n ∧ n ≤ 2 ^ 31 - 1 := by
  unfold IsWord wordMin wordMax
  omega

theorem isAsciiDigit_iff {c : Char} : isAsciiDigit c = true ↔ '0' ≤ c ∧ c ≤ '9' := by
  rw [isAsciiDigit, Bool.and_eq_true, decide_eq_true_eq, decide_eq_true_eq]
  rfl

/-- Reading digit by digit gives the value of the digits by their places. -/
theorem valueOf_eq_ofDigits (ds : List Nat) : valueOf ds = Nat.ofDigits 10 ds.reverse := by
  rw [Nat.ofDigits_eq_foldr, List.foldr_reverse, valueOf]
  congr 1
  funext n d
  exact Nat.add_comm _ _

/-- Every text is a sign or none and what is left after it. -/
theorem exists_sign (cs : List Char) :
    ∃ sign ∈ [[], ['+'], ['-']], cs = sign ++ (splitSign cs).2
      ∧ (splitSign cs).1 = decide (sign = ['-']) := by
  unfold splitSign
  split
  · exact ⟨['-'], by simp, rfl, rfl⟩
  · exact ⟨['+'], by simp, rfl, rfl⟩
  · exact ⟨[], by simp, rfl, rfl⟩

namespace PlainNumeral

variable (s : PlainNumeral)

theorem isAsciiDigit_of_mem {c : Char} (h : c ∈ s.figures) : isAsciiDigit c = true :=
  isAsciiDigit_iff.2 (s.ascii c h)

theorem splitSign_append :
    splitSign (s.sign ++ s.figures) = (decide (s.sign = ['-']), s.figures) := by
  have signs := s.signs
  simp only [List.mem_cons, List.not_mem_nil, or_false] at signs
  rcases signs with none | plus | minus
  · rw [none, List.nil_append]
    exact splitSign_of_isAsciiDigit fun c hc => s.isAsciiDigit_of_mem hc
  · rw [plus]
    rfl
  · rw [minus]
    rfl

theorem isPlain_append : isPlain (s.sign ++ s.figures) = true := by
  have nonempty : s.figures ≠ [] := List.length_pos_iff.1 s.some_figure
  have all : s.figures.all isAsciiDigit = true :=
    List.all_eq_true.2 fun c hc => s.isAsciiDigit_of_mem hc
  simp [isPlain, splitSign_append, nonempty, all]

theorem plainValue_append : plainValue (s.sign ++ s.figures) = s.value := by
  simp only [plainValue, splitSign_append, valueOf_eq_ofDigits, withSign, value, magnitude,
    List.map_reverse, decide_eq_true_eq]
  rfl

end PlainNumeral

/-- A plain text with few enough digits is a plain numeral. -/
theorem exists_plainNumeral {t : String} (plain : isPlain t.toList = true)
    (few : (splitSign t.toList).2.length ≤ digitLimit) : ∃ s : PlainNumeral, s.text = t := by
  obtain ⟨sign, signs, split, -⟩ := exists_sign t.toList
  simp only [isPlain, Bool.and_eq_true, Bool.not_eq_true', List.isEmpty_eq_false_iff,
    List.all_eq_true] at plain
  obtain ⟨nonempty, ascii⟩ := plain
  refine ⟨⟨sign, (splitSign t.toList).2, signs, fun c hc => isAsciiDigit_iff.1 (ascii c hc),
    List.length_pos_iff.2 nonempty, few⟩, ?_⟩
  rw [PlainNumeral.text, ← split, String.ofList_toList]

/-- **The strict reader reads the plain numerals of the integers of 32 bits.** -/
theorem readWord_eq_ok_iff_denotes {t : String} {n : Int} : readWord t = .ok n ↔ Denotes t n := by
  rw [readWord_eq_ok_iff]
  constructor
  · rintro ⟨plain, few, spelled, word⟩
    obtain ⟨s, rfl⟩ := exists_plainNumeral plain few
    rw [PlainNumeral.text, String.toList_ofList, s.plainValue_append] at spelled
    exact ⟨s, rfl, spelled, isWord_iff.1 word⟩
  · rintro ⟨s, rfl, rfl, word⟩
    rw [PlainNumeral.text, String.toList_ofList, s.splitSign_append, s.plainValue_append]
    exact ⟨s.isPlain_append, s.few, rfl, isWord_iff.2 word⟩

theorem exists_readWord_error_iff {t : String} :
    (∃ p, readWord t = .error p) ↔ ∀ n, ¬ Denotes t n := by
  simp only [← readWord_eq_ok_iff_denotes]
  cases readWord t <;> simp

end Numeral

/-! ## Look-ups -/

namespace Override

open Numeral (Denotes)

variable {t : PairTable} {key : String}

theorem int?_eq_some_iff {n : Int} :
    t.int? key = some n ↔ ∃ v, t.get? key = some v ∧ Denotes v n := by
  simp only [PairTable.int?, Option.bind_eq_some_iff, ← Numeral.readWord_eq_ok_iff_denotes]
  refine exists_congr fun v => and_congr_right fun _ => ?_
  cases Numeral.readWord v <;> simp [Except.toOption]

/-- A look-up finds no integer if there is no value, or one that is no plain numeral. -/
theorem int?_eq_none_iff :
    t.int? key = none ↔ t.get? key = none ∨ ∃ v, t.get? key = some v ∧ ∀ n, ¬ Denotes v n := by
  rw [Option.eq_none_iff_forall_ne_some]
  simp only [ne_eq, int?_eq_some_iff]
  cases t.get? key <;> simp

theorem ints?_eq_some_iff {ns : List Int} :
    t.ints? key = some ns ↔ ∃ v, t.get? key = some v ∧ Spells v ns := by
  simp only [PairTable.ints?, Option.bind_eq_some_iff, ← readInts_eq_ok_iff]
  refine exists_congr fun v => and_congr_right fun _ => ?_
  cases PairTable.readInts v <;> simp [Except.toOption]

/-- A value spells integers if each of its items is a plain numeral. -/
theorem exists_spells_iff {v : String} :
    (∃ ns, Spells v ns) ↔ ∀ item ∈ pieces .colon v.toList, ∃ n, Denotes (String.ofList item) n := by
  simp only [Spells, Numeral.readWord_eq_ok_iff_denotes]
  induction pieces .colon v.toList with
  | nil => simp
  | cons item r ih =>
    rw [List.forall_mem_cons, ← ih]
    constructor
    · rintro ⟨ns, h⟩
      obtain ⟨n, ms, first, rest, -⟩ := List.forall₂_cons_left_iff.1 h
      exact ⟨⟨n, first⟩, ms, rest⟩
    · rintro ⟨⟨n, first⟩, ms, rest⟩
      exact ⟨n :: ms, .cons first rest⟩

/-- A look-up finds no integers if there is no value, or one with an item that is no plain
    numeral. -/
theorem ints?_eq_none_iff :
    t.ints? key = none ↔ t.get? key = none
      ∨ ∃ v, t.get? key = some v
        ∧ ∃ item ∈ pieces .colon v.toList, ∀ n, ¬ Denotes (String.ofList item) n := by
  rw [Option.eq_none_iff_forall_ne_some]
  simp only [ne_eq, ints?_eq_some_iff]
  cases t.get? key with
  | none => simp
  | some v =>
    have items := not_congr (exists_spells_iff (v := v))
    simpa using items

/-- **Integers of 32 bits are read as they are written.** A text is read exactly if it is a
    plain numeral of such an integer, and else refused, and look-ups fall back on their
    default exactly if they find nothing or an item that is refused. What is written
    in decimal is read back, by itself or in a list. -/
theorem words_read :
    (∀ t n, Numeral.readWord t = .ok n ↔ Denotes t n)
      ∧ (∀ t, (∃ p, Numeral.readWord t = .error p) ↔ ∀ n, ¬ Denotes t n)
      ∧ (∀ (t : PairTable) key, t.int? key = none ↔ t.get? key = none
        ∨ ∃ v, t.get? key = some v ∧ ∀ n, ¬ Denotes v n)
      ∧ (∀ (t : PairTable) key, t.ints? key = none ↔ t.get? key = none
        ∨ ∃ v, t.get? key = some v
          ∧ ∃ item ∈ pieces .colon v.toList, ∀ n, ¬ Denotes (String.ofList item) n)
      ∧ (∀ n : Int, -2 ^ 31 ≤ n → n ≤ 2 ^ 31 - 1 → Numeral.readWord (Numeral.text n) = .ok n)
      ∧ ∀ (t : PairTable) key (ns : List Int), ns ≠ [] →
        (∀ n ∈ ns, -2 ^ 31 ≤ n ∧ n ≤ 2 ^ 31 - 1) →
        t.get? key = some (joined ":" (ns.map Numeral.text)) → t.ints? key = some ns := by
  refine ⟨fun t n => Numeral.readWord_eq_ok_iff_denotes, fun t => Numeral.exists_readWord_error_iff,
    fun t key => int?_eq_none_iff, fun t key => ints?_eq_none_iff, fun n low high => ?_,
    fun t key ns nonempty words found => ?_⟩
  · exact Numeral.readWord_text_eq_ok_iff.2 ⟨rfl, Numeral.isWord_iff.2 ⟨low, high⟩⟩
  · rw [ints?_eq_some_iff]
    refine ⟨_, found, ?_⟩
    rw [← renderArray_int, spells_renderArray_iff nonempty]
    exact ⟨rfl, fun n hn => Numeral.isWord_iff.2 (words n hn)⟩

/-- A numeral with a sign and zeros in front, and integers of both signs in a list. -/
theorem words_read_written :
    Denotes "+007" 7 ∧ Numeral.readWord "+007" = .ok 7
      ∧ PairTable.ints? ⟨[("a", joined ":" ([7, -2147483648].map Numeral.text))]⟩ "a"
        = some [7, -2147483648] := by
  obtain ⟨read, -, -, -, -, list⟩ := words_read
  have seven : Denotes "+007" 7 :=
    ⟨⟨['+'], ['0', '0', '7'], by decide, by simp, by decide, by decide⟩, by decide⟩
  exact ⟨seven, (read "+007" 7).2 seven, list _ "a" [7, -2147483648] (by decide) (by decide) rfl⟩

end Override

end RoamTuning
