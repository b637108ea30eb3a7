import Mathlib.Data.List.Basic
import RoamTuning.Override.Grammar
import RoamTuning.Override.Pairs
import RoamTuning.Proofs.Pieces

/-!
# The language of the grammar

The grammar check reads a text character by character; the pieces of a text
between its commas are what it says about it: a text passes exactly when each of
its pieces is a pair. Nothing around such a pair can be trimmed off, so its key
and its value are kept as they are written.

Results:

* `accepts_iff_forall_isPair`: the texts that pass are those made of pairs.
* `pairsOf_of_accepts`: the pairs of such a text are read as they are written.
-/

namespace RoamTuning.Override

open RoamTuning.Text

/-! ## The characters of pairs -/

/-- The characters of keys and values are visible ones of ASCII. -/
theorem isBlank_of_visible {c : Char} (low : 0x21 ≤ c.toNat) (high : c.toNat ≤ 0x7E) :
    isBlank c = false := by
  simp only [isBlank, isSpace, Bool.or_eq_false_iff, Bool.and_eq_false_iff, decide_eq_false_iff_not,
    beq_eq_false_iff_ne]
  omega

theorem isBlank_of_isDigit {c : Char} (h : c.isDigit = true) : isBlank c = false := by
  rw [Char.isDigit_iff_toNat] at h
  obtain ⟨low, high⟩ := h
  exact isBlank_of_visible (Nat.le_trans (by decide) low) (Nat.le_trans high (by decide))

theorem isBlank_of_startsKey {c : Char} (h : startsKey c = true) : isBlank c = false := by
  have letter : c.isAlpha = (c.isUpper || c.isLower) := rfl
  have upper : c.isUpper = decide (c.val ≥ 65 ∧ c.val ≤ 90) := rfl
  have lower : c.isLower = (c.val ≥ 97 && c.val ≤ 122) := rfl
  simp only [startsKey, letter, upper, lower, Bool.or_eq_true, beq_iff_eq, Bool.and_eq_true,
    decide_eq_true_eq, ge_iff_le, UInt32.le_iff_toNat_le, Char.toNat_val] at h
  rcases h with (⟨low, high⟩ | ⟨low, high⟩) | rfl
  · exact isBlank_of_visible (Nat.le_trans (by decide) low) (Nat.le_trans high (by decide))
  · exact isBlank_of_visible (Nat.le_trans (by decide) low) (Nat.le_trans high (by decide))
  · decide

theorem isBlank_of_continuesKey {c : Char} (h : continuesKey c = true) : isBlank c = false := by
  rcases Bool.or_eq_true_iff.1 h with h | h
  · exact isBlank_of_startsKey h
  · exact isBlank_of_isDigit h

theorem isBlank_of_inValue {c : Char} (h : inValue c = true) : isBlank c = false := by
  simp only [inValue, Bool.or_eq_true, beq_iff_eq] at h
  rcases h with (((h | rfl) | rfl) | rfl) | rfl
  · exact isBlank_of_isDigit h
  all_goals decide

/-- A character of a class is not one outside of it. -/
theorem not_mem_of_forall {p : Char → Bool} {a : Char} (ha : p a = false) {cs : List Char}
    (h : ∀ c ∈ cs, p c = true) : a ∉ cs := by
  intro mem
  rw [h a mem] at ha
  cases ha

/-! ## Runs of the check -/

theorem run?_append (p : Place) (u v : List Char) :
    p.run? (u ++ v) = (p.run? u).bind fun q => q.run? v := by
  induction u generalizing p with
  | nil => rfl
  | cons c r ih =>
    simp only [List.cons_append, Place.run?]
    cases p.next? c with
    | none => rfl
    | some q => exact ih q

theorem run?_value_iff {u : List Char} (h : ',' ∉ u) :
    Place.value.run? u = some .value ↔ ∀ c ∈ u, inValue c = true := by
  induction u with
  | nil => simp [Place.run?]
  | cons c r ih =>
    have hc : c ≠ ',' := fun e => h (by simp [e])
    have hr : ',' ∉ r := fun e => h (by simp [e])
    cases v : inValue c <;> simp [Place.run?, Place.next?, hc, v, ih hr]

theorem run?_equals_iff {u : List Char} (h : ',' ∉ u) :
    Place.equals.run? u = some .value ↔ u ≠ [] ∧ ∀ c ∈ u, inValue c = true := by
  cases u with
  | nil => simp [Place.run?]
  | cons c r =>
    have hr : ',' ∉ r := fun e => h (by simp [e])
    cases v : inValue c <;> simp [Place.run?, Place.next?, v, run?_value_iff hr]

/-- What may follow when a part of a key has been read: the rest of the key, the
    equals sign and a value. -/
def IsRest (cs : List Char) : Prop :=
  ∃ key value, cs = key ++ '=' :: value ∧ (∀ c ∈ key, continuesKey c = true)
    ∧ value ≠ [] ∧ ∀ c ∈ value, inValue c = true

theorem isRest_equals {r : List Char} :
    IsRest ('=' :: r) ↔ r ≠ [] ∧ ∀ c ∈ r, inValue c = true := by
  constructor
  · rintro ⟨key, value, e, keys, nonempty, values⟩
    cases key with
    | nil =>
      obtain rfl := (List.cons.inj e).2
      exact ⟨nonempty, values⟩
    | cons d key =>
      have continues := keys d (by simp)
      rw [← (List.cons.inj e).1] at continues
      exact absurd continues (by decide)
  · rintro ⟨nonempty, values⟩
    exact ⟨[], r, rfl, by simp, nonempty, values⟩

theorem isRest_cons {c : Char} (other : c ≠ '=') {r : List Char} :
    IsRest (c :: r) ↔ continuesKey c = true ∧ IsRest r := by
  constructor
  · rintro ⟨key, value, e, keys, rest⟩
    cases key with
    | nil => exact absurd (List.cons.inj e).1 other
    | cons d key =>
      obtain ⟨rfl, rfl⟩ := List.cons.inj e
      exact ⟨keys c (by simp), key, value, rfl, fun d hd => keys d (by simp [hd]), rest⟩
  · rintro ⟨hc, key, value, rfl, keys, rest⟩
    exact ⟨c :: key, value, rfl, List.forall_mem_cons.2 ⟨hc, keys⟩, rest⟩

theorem run?_key_iff {u : List Char} (h : ',' ∉ u) :
    Place.key.run? u = some .value ↔ IsRest u := by
  induction u with
  | nil => simp [Place.run?, IsRest]
  | cons c r ih =>
    have hr : ',' ∉ r := fun e => h (by simp [e])
    by_cases equals : c = '='
    · subst equals
      have next : Place.key.run? ('=' :: r) = Place.equals.run? r := rfl
      rw [next, run?_equals_iff hr, isRest_equals]
    · rw [isRest_cons equals, ← ih hr]
      cases k : continuesKey c <;> simp [Place.run?, Place.next?, equals, k]

/-- The check runs through a text without commas exactly when that is a pair. -/
theorem run?_start_iff {u : List Char} (h : ',' ∉ u) :
    Place.start.run? u = some .value ↔ IsPair u := by
  cases u with
  | nil => simp [Place.run?, IsPair]
  | cons c r =>
    have hr : ',' ∉ r := fun e => h (by simp [e])
    have first : IsPair (c :: r) ↔ startsKey c = true ∧ Place.key.run? r = some .value := by
      rw [run?_key_iff hr]
      constructor
      · rintro ⟨d, key, value, e, start, rest⟩
        obtain ⟨rfl, rfl⟩ := List.cons.inj e
        exact ⟨start, key, value, rfl, rest⟩
      · rintro ⟨start, key, value, rfl, rest⟩
        exact ⟨c, key, value, rfl, start, rest⟩
    rw [first]
    cases s : startsKey c <;> simp [Place.run?, Place.next?, s]

/-- Only after a value may a comma come, and then a key has to start. -/
theorem next?_comma (p : Place) : p.next? ',' = if p = .value then some .start else none := by
  cases p <;> decide

/-- **The texts that pass the check are those made of pairs.** -/
theorem accepts_iff_forall_isPair {text : String} :
    accepts text = true ↔ ∀ piece ∈ pieces .comma text.toList, IsPair piece := by
  rw [accepts_iff_run, Delimiter.comma_eq_single]
  -- up to its first comma a text is a pair by itself, and the comma starts the check anew
  induction text.toList using delimited_induction ',' with
  | last u hu => rw [run?_start_iff hu, pieces_single_of_not_mem hu, List.forall_mem_singleton]
  | more u v hu ih =>
    rw [pieces_single_append hu, List.forall_mem_cons, ← ih, ← run?_start_iff hu, run?_append]
    cases q : Place.start.run? u with
    | none => simp
    | some p => cases p <;> simp [Place.run?, next?_comma]

/-- A text that passes is not blank: it starts with a key. -/
theorem isBlankText_of_accepts {text : String} (h : accepts text = true) :
    isBlankText text = false := by
  rw [accepts_iff_run] at h
  cases cs : text.toList with
  | nil =>
    rw [cs] at h
    cases h
  | cons c r =>
    have starts : startsKey c = true := by
      cases s : startsKey c with
      | true => rfl
      | false => simp [cs, Place.run?, Place.next?, s] at h
    simp [isBlankText, cs, isBlank_of_startsKey starts]

/-! ## Pairs as they are written -/

/-- The key and the value of a piece as they are written: what stands before its
    first equals sign, and what stands after. -/
def writtenPair (piece : List Char) : String × String :=
  (String.ofList (piece.takeWhile (· ≠ '=')), String.ofList ((piece.dropWhile (· ≠ '=')).drop 1))

/-- The pairs of a text as they are written. -/
def writtenPairs (text : String) : List (String × String) :=
  (pieces .comma text.toList).map writtenPair

/-- The keys of a text, in the order of its pairs. -/
def keysOf (text : String) : List String := (writtenPairs text).map (·.1)

theorem writtenPair_append {key : List Char} (h : '=' ∉ key) (value : List Char) :
    writtenPair (key ++ '=' :: value) = (String.ofList key, String.ofList value) := by
  have before : ∀ c ∈ key, decide (c ≠ '=') = true := by
    intro c hc
    rw [decide_eq_true_eq]
    rintro rfl
    exact h hc
  rw [writtenPair, List.takeWhile_append_of_pos before, List.dropWhile_append_of_pos before]
  simp

/-- Nothing of a pair is trimmed off. -/
theorem pairOf?_of_isPair {piece : List Char} (h : IsPair piece) :
    pairOf? piece = some (writtenPair piece) := by
  obtain ⟨first, key, value, rfl, start, keys, -, values⟩ := h
  have continued : ∀ c ∈ first :: key, continuesKey c = true := by
    intro c hc
    rcases List.mem_cons.1 hc with rfl | hc
    · simp [continuesKey, start]
    · exact keys c hc
  have sign : '=' ∉ first :: key := not_mem_of_forall (by decide) continued
  rw [writtenPair_append sign, pairOf?, cutAt_append sign, Option.map_some,
    trimBy_eq_self_of_forall fun c hc => isBlank_of_continuesKey (continued c hc),
    trimBy_eq_self_of_forall fun c hc => isBlank_of_inValue (values c hc)]

/-- **The pairs of a text that passes the check are read as they are written.** -/
theorem pairsOf_of_accepts {text : String} (h : accepts text = true) :
    pairsOf .comma text = writtenPairs text := by
  rw [accepts_iff_forall_isPair] at h
  exact List.filterMap_eq_map_iff_forall_eq_some.2 fun piece hp => pairOf?_of_isPair (h piece hp)

theorem length_writtenPairs (text : String) :
    (writtenPairs text).length = (pieces .comma text.toList).length := by
  rw [writtenPairs, List.length_map]

end RoamTuning.Override
