import Mathlib.Data.List.Forall2
import RoamTuning.Proofs.Edits

/-!
# The meaning of override text

What parsing does, said without the parser: which texts are read over a base,
what the set is that they are read as, and with which error any other text is
refused. A text is taken as it is written, as pairs between commas and integers
between colons.

Results:

* `parse_meaning`: parsing is what is said here, for every text and every base.
-/

namespace RoamTuning.Override

open Text
open ParamSet (Field)

/-! ## What a text says -/

/-- Whether a text gives a key a value. -/
def Gives (text key value : String) : Prop := (key, value) ∈ writtenPairs text

/-- Whether the items of a value, those between its colons, spell given integers. -/
def Spells (value : String) (ns : List Int) : Prop :=
  List.Forall₂ (fun item n => Numeral.readWord (String.ofList item) = .ok n)
    (pieces .colon value.toList) ns

/-- Whether what a text gives for a parameter, if anything, has the shape that a
    base has there. -/
def Fits (text : String) (base : IntParams) : Field → Prop
  | .array k => ∀ v, Gives text k.name v → ∃ ns, Spells v ns ∧ ns.length = (base.array k).length
  | .scalar k => ∀ v, Gives text k.name v → ∃ n, Numeral.readWord v = .ok n
  | _ => True

/-- What can be said against the value that a text gives for a parameter. -/
inductive Complaint (text : String) (base : IntParams) : Field → Error → Prop
  | notIntegers {k : ArrayKey} {v : String} (given : Gives text k.name v)
      (h : ∀ ns, ¬ Spells v ns) : Complaint text base (.array k) (.badValue k.name v .notIntegers)
  | wrongCount {k : ArrayKey} {v : String} {ns : List Int} (given : Gives text k.name v)
      (spelled : Spells v ns) (h : ns.length ≠ (base.array k).length) :
      Complaint text base (.array k)
        (.badValue k.name v (.wrongCount (base.array k).length ns.length))
  | notAnInteger {k : ScalarKey} {v : String} (given : Gives text k.name v)
      (h : ∀ n, Numeral.readWord v ≠ .ok n) :
      Complaint text base (.scalar k) (.badValue k.name v .notAnInteger)

/-- The texts that can be read over a base. -/
structure Readable (text : String) (base : IntParams) : Prop where
  grammar : checkGrammar text = .ok ()
  distinct : (keysOf text).Nodup
  fits : ∀ f ∈ Field.tunable, Fits text base f

/-- What a text is read as: the base with the values that the text gives. -/
structure Applied (text : String) (base p : IntParams) : Prop where
  array_given : ∀ (k : ArrayKey) v, Gives text k.name v → Spells v (p.array k)
  scalar_given : ∀ (k : ScalarKey) v, Gives text k.name v → Numeral.readWord v = .ok (p.scalar k)
  array_kept : ∀ k : ArrayKey, (∀ v, ¬ Gives text k.name v) → p.array k = base.array k
  scalar_kept : ∀ k : ScalarKey, (∀ v, ¬ Gives text k.name v) → p.scalar k = base.scalar k
  platform_kept : p.platform = base.platform

/-- With which error a text is refused: the grammar comes first, then repeated
    keys, then the first parameter there is a complaint about. -/
inductive Refused (text : String) (base : IntParams) : Error → Prop
  | malformed (h : checkGrammar text ≠ .ok ()) : Refused text base (.malformed text)
  | repeatedKey (grammar : checkGrammar text = .ok ()) (h : ¬ (keysOf text).Nodup) :
      Refused text base (.repeatedKey text)
  | badValue (grammar : checkGrammar text = .ok ()) (distinct : (keysOf text).Nodup)
      {before after : List Field} {f : Field} {e : Error}
      (order : Field.tunable = before ++ f :: after) (fits : ∀ g ∈ before, Fits text base g)
      (h : Complaint text base f e) : Refused text base e

/-! ## Spelling -/

theorem mapM_eq_ok_iff {ε α β : Type} {f : α → Except ε β} {xs : List α} {ys : List β} :
    xs.mapM f = .ok ys ↔ List.Forall₂ (fun x y => f x = .ok y) xs ys := by
  induction xs generalizing ys with
  | nil =>
    rw [List.mapM_nil, List.forall₂_nil_left_iff]
    exact ⟨fun h => (Except.ok.inj h).symm, fun h => h ▸ rfl⟩
  | cons x r ih =>
    rw [List.mapM_cons, List.forall₂_cons_left_iff]
    cases first : f x with
    | error e => simp [bind, Except.bind]
    | ok y =>
      cases rest : r.mapM f with
      | error e => simp [bind, Except.bind, ← ih, rest]
      | ok zs => simp [bind, Except.bind, pure, Except.pure, ← ih, rest, eq_comm]

theorem readInts_eq_ok_iff {v : String} {ns : List Int} :
    PairTable.readInts v = .ok ns ↔ Spells v ns := mapM_eq_ok_iff

/-- A value spells one list of integers at most. -/
theorem Spells.unique {v : String} {ns ms : List Int} (h : Spells v ns) (h' : Spells v ms) :
    ns = ms :=
  Except.ok.inj ((readInts_eq_ok_iff.2 h).symm.trans (readInts_eq_ok_iff.2 h'))

/-! ## Complaints -/

variable {text : String} {base : IntParams}

theorem checkGrammar_eq_ok_iff : checkGrammar text = .ok () ↔ accepts text = true := by
  unfold checkGrammar
  split <;> simp_all

/-- What is found for a key is what the text gives it. -/
theorem get?_eq_some_iff_gives (grammar : accepts text = true) (distinct : (keysOf text).Nodup)
    {key v : String} : (pairTable .comma text).get? key = some v ↔ Gives text key v := by
  rw [pairTable, pairsOf_of_accepts grammar, Table.get?_ofPairs_eq_some_iff distinct, Gives]

theorem complaint?_array_iff {t : PairTable}
    (found : ∀ {key v}, t.get? key = some v ↔ Gives text key v) {k : ArrayKey} {e : Error} :
    complaint? t (fun k => (base.array k).length) (.array k) = some e
      ↔ Complaint text base (.array k) e := by
  constructor
  · intro h
    obtain ⟨v, given, hv⟩ := Option.bind_eq_some_iff.1 h
    rw [found] at given
    cases r : PairTable.readInts v with
    | error p =>
      rw [r] at hv
      obtain rfl := Option.some.inj hv
      refine .notIntegers given fun ns spelled => ?_
      rw [readInts_eq_ok_iff.2 spelled] at r
      cases r
    | ok ns =>
      simp only [r] at hv
      split at hv
      · cases hv
      · rename_i count
        obtain rfl := Option.some.inj hv
        exact .wrongCount given (readInts_eq_ok_iff.1 r) count
  · intro h
    cases h with
    | @notIntegers _ v given none =>
      cases r : PairTable.readInts v with
      | error p => simp [complaint?, found.2 given, r]
      | ok ns => exact absurd (readInts_eq_ok_iff.1 r) (none ns)
    | wrongCount given spelled count =>
      simp [complaint?, found.2 given, readInts_eq_ok_iff.2 spelled, count]

theorem complaint?_scalar_iff {t : PairTable}
    (found : ∀ {key v}, t.get? key = some v ↔ Gives text key v) {k : ScalarKey} {e : Error} :
    complaint? t (fun k => (base.array k).length) (.scalar k) = some e
      ↔ Complaint text base (.scalar k) e := by
  constructor
  · intro h
    obtain ⟨v, given, hv⟩ := Option.bind_eq_some_iff.1 h
    rw [found] at given
    cases r : Numeral.readWord v with
    | error p =>
      rw [r] at hv
      obtain rfl := Option.some.inj hv
      exact .notAnInteger given fun n read => by simp [r] at read
    | ok n =>
      rw [r] at hv
      cases hv
  · intro h
    cases h with
    | @notAnInteger _ v given none =>
      cases r : Numeral.readWord v with
      | error p => simp [complaint?, found.2 given, r]
      | ok n => exact absurd r (none n)

theorem complaint?_eq_some_iff {t : PairTable}
    (found : ∀ {key v}, t.get? key = some v ↔ Gives text key v) {f : Field} {e : Error} :
    complaint? t (fun k => (base.array k).length) f = some e ↔ Complaint text base f e := by
  cases f with
  | array k => exact complaint?_array_iff found
  | scalar k => exact complaint?_scalar_iff found
  | constant c => exact ⟨nofun, nofun⟩
  | beaconBoost6GHz => exact ⟨nofun, nofun⟩

/-- There is no complaint about a parameter whose value fits. -/
theorem fits_iff {f : Field} : Fits text base f ↔ ∀ e, ¬ Complaint text base f e := by
  constructor
  · intro fits e h
    cases h with
    | notIntegers given none =>
      obtain ⟨ns, spelled, -⟩ := fits _ given
      exact none ns spelled
    | wrongCount given spelled count =>
      obtain ⟨ms, spelled', length⟩ := fits _ given
      rw [← readInts_eq_ok_iff] at spelled spelled'
      obtain rfl := Except.ok.inj (spelled.symm.trans spelled')
      exact count length
    | notAnInteger given none =>
      obtain ⟨n, read⟩ := fits _ given
      exact none n read
  · intro none
    cases f with
    | array k =>
      intro v given
      have spelled : ∃ ns, Spells v ns := by
        by_contra h
        exact none _ (.notIntegers given (not_exists.1 h))
      obtain ⟨ns, spelled⟩ := spelled
      refine ⟨ns, spelled, ?_⟩
      by_contra count
      exact none _ (.wrongCount given spelled count)
    | scalar k =>
      intro v given
      by_contra h
      exact none _ (.notAnInteger given (not_exists.1 h))
    | constant c => exact trivial
    | beaconBoost6GHz => exact trivial

/-! ## Refusals -/

theorem complaint?_eq_none_iff {t : PairTable}
    (found : ∀ {key v}, t.get? key = some v ↔ Gives text key v) {f : Field} :
    complaint? t (fun k => (base.array k).length) f = none ↔ Fits text base f := by
  rw [fits_iff, Option.eq_none_iff_forall_ne_some]
  exact forall_congr' fun e => not_congr (complaint?_eq_some_iff found)

theorem refusal?_eq_some_iff {e : Error} :
    refusal? text (fun k => (base.array k).length) = some e ↔ Refused text base e := by
  cases grammar : accepts text with
  | false =>
    have fails : checkGrammar text ≠ .ok () := by simp [checkGrammar_eq_ok_iff, grammar]
    rw [refusal?_of_malformed grammar]
    constructor
    · intro h
      exact Option.some.inj h ▸ .malformed fails
    · intro h
      cases h with
      | malformed => rfl
      | repeatedKey passes => exact absurd passes fails
      | badValue passes => exact absurd passes fails
  | true =>
    have passes : checkGrammar text = .ok () := checkGrammar_eq_ok_iff.2 grammar
    by_cases distinct : (keysOf text).Nodup
    · have found : ∀ {key v}, (pairTable .comma text).get? key = some v ↔ Gives text key v :=
        get?_eq_some_iff_gives grammar distinct
      rw [refusal?_of_distinct grammar distinct, List.findSome?_eq_some_iff]
      simp only [complaint?_eq_some_iff found, complaint?_eq_none_iff found]
      constructor
      · rintro ⟨before, f, after, order, complaint, fits⟩
        exact .badValue passes distinct order fits complaint
      · intro h
        cases h with
        | malformed fails => exact absurd passes fails
        | repeatedKey _ repeated => exact absurd distinct repeated
        | badValue _ _ order fits complaint => exact ⟨_, _, _, order, complaint, fits⟩
    · rw [refusal?_of_repeated grammar distinct]
      constructor
      · intro h
        exact Option.some.inj h ▸ .repeatedKey passes distinct
      · intro h
        cases h with
        | malformed fails => exact absurd passes fails
        | repeatedKey => rfl
        | badValue _ distinct' => exact absurd distinct' distinct

theorem refusal?_eq_none_iff :
    refusal? text (fun k => (base.array k).length) = none ↔ Readable text base := by
  constructor
  · intro h
    obtain ⟨grammar, distinct⟩ := accepts_of_refusal?_eq_none h
    refine ⟨checkGrammar_eq_ok_iff.2 grammar, distinct, fun f hf => ?_⟩
    rw [refusal?_of_distinct grammar distinct] at h
    rw [← complaint?_eq_none_iff (get?_eq_some_iff_gives grammar distinct)]
    exact List.findSome?_eq_none_iff.1 h f hf
  · rintro ⟨grammar, distinct, fits⟩
    rw [checkGrammar_eq_ok_iff] at grammar
    rw [refusal?_of_distinct grammar distinct, List.findSome?_eq_none_iff]
    intro f hf
    rw [complaint?_eq_none_iff (get?_eq_some_iff_gives grammar distinct)]
    exact fits f hf

/-- No text is refused because a set of integers could not be used. -/
theorem refusal?_ne_unfit {m : Value.Misfit} : refusal? text ArrayKey.size ≠ some (.unfit m) := by
  have sizes : (fun k => (ParamSet.builtIn.array k).length) = ArrayKey.size :=
    funext ParamSet.shaped_builtIn
  rw [← sizes, Ne, refusal?_eq_some_iff]
  intro h
  cases h with
  | badValue _ _ _ _ complaint => cases complaint

/-! ## Readings -/

/-- A text that can be read is applied as its edit. -/
theorem applied_editOf (h : Readable text base) : Applied text base ((editOf text).apply base) := by
  obtain ⟨grammar, distinct, fits⟩ := h
  rw [checkGrammar_eq_ok_iff] at grammar
  have found : ∀ {key v}, (pairTable .comma text).get? key = some v ↔ Gives text key v :=
    get?_eq_some_iff_gives grammar distinct
  have absent : ∀ {key}, (∀ v, ¬ Gives text key v) → (pairTable .comma text).get? key = none :=
    fun none => Option.eq_none_iff_forall_ne_some.2 fun v hv => none v (found.1 hv)
  refine ⟨?_, ?_, ?_, ?_, rfl⟩
  · intro k v given
    obtain ⟨ns, spelled, -⟩ := fits (.array k) (by cases k <;> decide) v given
    have read : (editOf text).array k = some ns := by
      simp [editOf, PairTable.edit, PairTable.ints?, found.2 given, readInts_eq_ok_iff.2 spelled,
        Except.toOption]
    rw [Edit.array_apply, read]
    exact spelled
  · intro k v given
    obtain ⟨n, spelled⟩ := fits (.scalar k) (by cases k <;> decide) v given
    have read : (editOf text).scalar k = some n := by
      simp [editOf, PairTable.edit, PairTable.int?, found.2 given, spelled, Except.toOption]
    rw [Edit.scalar_apply, read]
    exact spelled
  · intro k none
    have unread : (editOf text).array k = Option.none := PairTable.ints?_of_absent (absent none)
    rw [Edit.array_apply, unread]
    rfl
  · intro k none
    have unread : (editOf text).scalar k = Option.none := PairTable.int?_of_absent (absent none)
    rw [Edit.scalar_apply, unread]
    rfl

theorem applied_of_parse {p : IntParams} (h : parse text base = .ok p) : Applied text base p := by
  rw [parse_eq] at h
  cases reason : refusal? text fun k => (base.array k).length with
  | some e =>
    rw [reason] at h
    cases h
  | none =>
    rw [reason] at h
    exact Except.ok.inj h ▸ applied_editOf (refusal?_eq_none_iff.1 reason)

theorem readable_of_parse {p : IntParams} (h : parse text base = .ok p) : Readable text base := by
  rw [← refusal?_eq_none_iff]
  cases reason : refusal? text fun k => (base.array k).length with
  | none => rfl
  | some e =>
    rw [parse_eq, reason] at h
    cases h

section Readings

variable {base' p q : IntParams}

/-- What a text gives for an array it gives over every base. -/
theorem Applied.array_eq (hp : Applied text base p) (hq : Applied text base' q) {k : ArrayKey}
    {v : String} (given : Gives text k.name v) : p.array k = q.array k :=
  (hp.array_given k v given).unique (hq.array_given k v given)

theorem Applied.scalar_eq (hp : Applied text base p) (hq : Applied text base' q) {k : ScalarKey}
    {v : String} (given : Gives text k.name v) : p.scalar k = q.scalar k := by
  have left := hp.scalar_given k v given
  have right := hq.scalar_given k v given
  exact Except.ok.inj (left.symm.trans right)

/-- A text has one reading over a base. -/
theorem Applied.unique (hp : Applied text base p) (hq : Applied text base q) : p = q := by
  have arrays : ∀ k : ArrayKey, p.array k = q.array k := by
    intro k
    by_cases given : ∃ v, Gives text k.name v
    · obtain ⟨v, given⟩ := given
      exact hp.array_eq hq given
    · rw [hp.array_kept k (not_exists.1 given), hq.array_kept k (not_exists.1 given)]
  have scalars : ∀ k : ScalarKey, p.scalar k = q.scalar k := by
    intro k
    by_cases given : ∃ v, Gives text k.name v
    · obtain ⟨v, given⟩ := given
      exact hp.scalar_eq hq given
    · rw [hp.scalar_kept k (not_exists.1 given), hq.scalar_kept k (not_exists.1 given)]
  exact ParamSet.ext_array_scalar arrays scalars (hp.platform_kept.trans hq.platform_kept.symm)

/-- A set that applies a readable text is what the text is parsed as. -/
theorem parse_of_applied (h : Readable text base) (hp : Applied text base p) :
    parse text base = .ok p := by
  rw [parse_eq, refusal?_eq_none_iff.2 h]
  exact congrArg Except.ok ((applied_editOf h).unique hp)

/-- What a text names it gives over every base. -/
theorem Applied.get_eq (hp : Applied text base p) (hq : Applied text base' q) {f : Field}
    (tunable : f ∈ Field.tunable) (key : f.name ∈ keysOf text) : p.get f = q.get f := by
  obtain ⟨⟨name, v⟩, given, rfl⟩ := List.mem_map.1 key
  cases f with
  | array k => exact congrArg Row.value (hp.array_eq hq given)
  | scalar k => exact congrArg Quantity.value (hp.scalar_eq hq given)
  | constant c => cases c <;> exact absurd tunable (by decide)
  | beaconBoost6GHz => exact absurd tunable (by decide)

end Readings

/-- Parsing fails with the errors with which a text is refused. -/
theorem parse_eq_error_iff {e : Error} : parse text base = .error e ↔ Refused text base e := by
  rw [parse_eq, ← refusal?_eq_some_iff]
  cases refusal? text fun k => (base.array k).length <;> simp [refusedOr]

/-- **What override text means.** A text is read over a base exactly when it is
    readable there, as the one set that applies it, and any other text is
    refused with the first of its errors. -/
theorem parse_meaning (text : String) (base : IntParams) :
    ((∃ p, parse text base = .ok p) ↔ Readable text base)
      ∧ (∀ p, parse text base = .ok p ↔ Readable text base ∧ Applied text base p)
      ∧ ∀ e, parse text base = .error e ↔ Refused text base e := by
  have read : ∀ p, parse text base = .ok p ↔ Readable text base ∧ Applied text base p := by
    intro p
    rw [parse_eq, ← refusal?_eq_none_iff]
    cases reason : refusal? text fun k => (base.array k).length with
    | some e => simp [refusedOr]
    | none =>
      have applied := applied_editOf (refusal?_eq_none_iff.1 reason)
      constructor
      · intro h
        exact ⟨rfl, Except.ok.inj h ▸ applied⟩
      · rintro ⟨-, h⟩
        exact congrArg Except.ok (applied.unique h)
  refine ⟨?_, read, ?_⟩
  · constructor
    · rintro ⟨p, h⟩
      exact ((read p).1 h).1
    · intro h
      exact ⟨_, (read _).2 ⟨h, applied_editOf h⟩⟩
  · intro e
    rw [← refusal?_eq_some_iff, parse_eq]
    cases refusal? text fun k => (base.array k).length <;> simp [refusedOr]

-- the order of complaints is not the order of the text
example : Field.tunable.map Field.name
    = ["rssi2", "rssi5", "rssi6", "pps", "horizon", "nud", "expid"] := rfl

end RoamTuning.Override
