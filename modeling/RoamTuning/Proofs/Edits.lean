import RoamTuning.Override
import RoamTuning.Proofs.DistinctKeys
import RoamTuning.Proofs.Grammar
import RoamTuning.Store

/-!
# Override text as an edit

What a text asks for does not depend on the set that it is applied to: it is an
edit, new values for some of the tunable parameters. Of the set only the lengths
of its arrays are asked for, and whether a set in the domain stays in it is
decided by the edit alone, since no check looks at two parameters.

Results:

* `parse_eq`: parsing either refuses a text or applies its edit.
* `check_apply`: on all sets in the domain an edit meets the same check.
* `validated_apply`: so what an edit comes to is the same on all of them.
-/

namespace RoamTuning

open Text

/-! ## Edits -/

/-- New values for some of the tunable parameters. -/
structure Edit where
  array : ArrayKey → Option (List Int)
  scalar : ScalarKey → Option Int

namespace Edit

/-- The set with the new values of an edit. -/
def apply (e : Edit) (p : IntParams) : IntParams where
  tunables := .ofFn (fun k => (e.array k).getD (p.array k)) fun k => (e.scalar k).getD (p.scalar k)
  platform := p.platform

/-- Whether the arrays of an edit are complete. -/
def Complete (e : Edit) : Prop := ∀ k ns, e.array k = some ns → ns.length = k.size

/-- New thresholds for one band. -/
def thresholds (b : Band) (ns : List Int) : Edit where
  array k := if k = b.key then some ns else none
  scalar _ := none

@[simp] theorem array_apply (e : Edit) (p : IntParams) (k : ArrayKey) :
    (e.apply p).array k = (e.array k).getD (p.array k) := by
  cases k <;> rfl

@[simp] theorem scalar_apply (e : Edit) (p : IntParams) (k : ScalarKey) :
    (e.apply p).scalar k = (e.scalar k).getD (p.scalar k) := by
  cases k <;> rfl

@[simp] theorem platform_apply (e : Edit) (p : IntParams) : (e.apply p).platform = p.platform := rfl

theorem apply_thresholds (b : Band) (ns : List Int) (p : IntParams) :
    (thresholds b ns).apply p = p.setRssi b ns := by
  cases b <;> rfl

theorem array_thresholds (b : Band) (ns : List Int) (k : ArrayKey) :
    (thresholds b ns).array k = if k = b.key then some ns else none := rfl

theorem complete_thresholds (b : Band) {ns : List Int} (h : ns.length = 4) :
    (thresholds b ns).Complete := by
  intro k ms hk
  rw [array_thresholds] at hk
  split at hk
  · rename_i band
    obtain rfl := Option.some.inj hk
    rw [h, band]
    cases b <;> rfl
  · exact absurd hk (by simp)

theorem shaped_apply {e : Edit} (complete : e.Complete) {p : IntParams} (h : p.Shaped) :
    (e.apply p).Shaped := by
  intro k
  rw [array_apply]
  cases hk : e.array k with
  | none => exact h k
  | some ns => exact complete k ns hk

end Edit

/-! ## Checking an edited set -/

namespace ParamSet

/-- Sets agree when their arrays and scalars and their platforms do. -/
theorem ext_array_scalar {p q : IntParams} (arrays : ∀ k, p.array k = q.array k)
    (scalars : ∀ k, p.scalar k = q.scalar k) (platform : p.platform = q.platform) : p = q := by
  have tunables : p.tunables = q.tunables := Tunables.ext_array_scalar arrays scalars
  calc
    p = ⟨p.tunables, p.platform⟩ := rfl
    _ = ⟨q.tunables, q.platform⟩ := by rw [tunables, platform]
    _ = q := rfl

theorem checkArray_of_inDomain {p : IntParams} (h : p.InDomain) (k : ArrayKey) :
    p.checkArray k = .ok () := by
  have passed := (check_eq_ok_iff p).2 h
  simp only [check, Outcome.then_eq_ok_iff, Outcome.forM_eq_ok_iff] at passed
  exact passed.1 k (by cases k <;> decide)

theorem checkScalar_of_inDomain {p : IntParams} (h : p.InDomain) (k : ScalarKey) :
    p.checkScalar k = .ok () := by
  have passed := (check_eq_ok_iff p).2 h
  simp only [check, Outcome.then_eq_ok_iff, Outcome.forM_eq_ok_iff] at passed
  exact passed.2.1 k (by cases k <;> decide)

theorem checkMinutes_of_inDomain {p : IntParams} (h : p.InDomain) :
    selectionTimes.forM p.checkMinutes = .ok () := by
  have passed := (check_eq_ok_iff p).2 h
  simp only [check, Outcome.then_eq_ok_iff] at passed
  exact passed.2.2

/-- An array is checked by itself. -/
theorem checkArray_congr {p q : IntParams} {k : ArrayKey} (h : p.array k = q.array k) :
    p.checkArray k = q.checkArray k := by
  simp only [checkArray_int, h]

/-- A scalar is checked by itself. -/
theorem checkScalar_congr {p q : IntParams} {k : ScalarKey} (h : p.scalar k = q.scalar k) :
    p.checkScalar k = q.checkScalar k := by
  simp only [checkScalar, h]

/-- **On all sets in the domain an edit meets the same check.** -/
theorem check_apply (e : Edit) {p q : IntParams} (hp : p.InDomain) (hq : q.InDomain) :
    (e.apply p).check = (e.apply q).check := by
  have arrays : (e.apply p).checkArray = (e.apply q).checkArray := by
    funext k
    cases hk : e.array k with
    | none =>
      have left : (e.apply p).array k = p.array k := by simp [hk]
      have right : (e.apply q).array k = q.array k := by simp [hk]
      rw [checkArray_congr left, checkArray_congr right, checkArray_of_inDomain hp,
        checkArray_of_inDomain hq]
    | some ns => exact checkArray_congr (by simp [hk])
  have scalars : (e.apply p).checkScalar = (e.apply q).checkScalar := by
    funext k
    cases hk : e.scalar k with
    | none =>
      have left : (e.apply p).scalar k = p.scalar k := by simp [hk]
      have right : (e.apply q).scalar k = q.scalar k := by simp [hk]
      rw [checkScalar_congr left, checkScalar_congr right, checkScalar_of_inDomain hp,
        checkScalar_of_inDomain hq]
    | some n => exact checkScalar_congr (by simp [hk])
  have times : selectionTimes.forM (e.apply p).checkMinutes
      = selectionTimes.forM (e.apply q).checkMinutes :=
    (checkMinutes_of_inDomain hp).trans (checkMinutes_of_inDomain hq).symm
  unfold check
  rw [arrays, scalars, times]

/-- What every active set is: in the domain, with complete arrays. -/
structure Sound (p : IntParams) : Prop where
  inDomain : p.InDomain
  shaped : p.Shaped

theorem sound_builtIn : builtIn.Sound := ⟨inDomain_builtIn, shaped_builtIn⟩

end ParamSet

/-- The edit itself, if it passes the checks on sets in the domain. -/
def Edit.judged (e : Edit) : Except Rejection Edit :=
  ((e.apply ParamSet.builtIn).check.map fun _ => e).mapError .invalid

theorem Edit.judged_eq {e f : Edit} (h : e.judged = .ok f) : f = e := by
  unfold judged at h
  cases c : (e.apply ParamSet.builtIn).check with
  | error d => rw [c] at h; cases h
  | ok u => rw [c] at h; exact (Except.ok.inj h).symm

theorem Edit.validated_apply (e : Edit) {p : IntParams} (h : p.InDomain) :
    (e.apply p).validated.mapError .invalid = e.judged.map (·.apply p) := by
  unfold ParamSet.validated judged
  rw [ParamSet.check_apply e h ParamSet.inDomain_builtIn]
  cases (e.apply ParamSet.builtIn).check <;> rfl

/-! ## The edit of a text -/

namespace Override

/-- The edit that a table of pairs writes. -/
def PairTable.edit (t : PairTable) : Edit where
  array k := t.ints? k.name
  scalar k := t.int? k.name

/-- What is wrong with the value that a table has for a parameter, where arrays
    have to have given sizes. -/
def complaint? (t : PairTable) (sizes : ArrayKey → Nat) : ParamSet.Field → Option Error
  | .array k => (t.get? k.name).bind fun v =>
    match PairTable.readInts v with
    | .error _ => some (.badValue k.name v .notIntegers)
    | .ok ns =>
      if ns.length = sizes k then none
      else some (.badValue k.name v (.wrongCount (sizes k) ns.length))
  | .scalar k => (t.get? k.name).bind fun v =>
    match Numeral.readWord v with
    | .error _ => some (.badValue k.name v .notAnInteger)
    | .ok _ => none
  | _ => none

/-- Why a text is refused where arrays have to have given sizes, if it is. -/
def refusal? (text : String) (sizes : ArrayKey → Nat) : Option Error :=
  if accepts text = false then some (.malformed text)
  else if (keysOf text).Nodup then
    ParamSet.Field.tunable.findSome? (complaint? (pairTable .comma text) sizes)
  else some (.repeatedKey text)

section Refusal

variable {text : String} {sizes : ArrayKey → Nat}

theorem refusal?_of_malformed (h : accepts text = false) :
    refusal? text sizes = some (.malformed text) := by
  rw [refusal?, if_pos h]

theorem refusal?_of_repeated (h : accepts text = true) (repeated : ¬ (keysOf text).Nodup) :
    refusal? text sizes = some (.repeatedKey text) := by
  rw [refusal?, if_neg (by simp [h]), if_neg repeated]

theorem refusal?_of_distinct (h : accepts text = true) (distinct : (keysOf text).Nodup) :
    refusal? text sizes
      = ParamSet.Field.tunable.findSome? (complaint? (pairTable .comma text) sizes) := by
  rw [refusal?, if_neg (by simp [h]), if_pos distinct]

/-- A text that is not refused is a list of pairs with distinct keys. -/
theorem accepts_of_refusal?_eq_none (h : refusal? text sizes = none) :
    accepts text = true ∧ (keysOf text).Nodup := by
  have grammar : accepts text = true := by
    cases fails : accepts text with
    | false =>
      rw [refusal?_of_malformed fails] at h
      cases h
    | true => rfl
  refine ⟨grammar, ?_⟩
  by_contra repeated
  rw [refusal?_of_repeated grammar repeated] at h
  cases h

end Refusal

/-- A value, unless there is a reason against it. -/
def refusedOr {ε β : Type} (reason : Option ε) (b : β) : Except ε β :=
  match reason with
  | some e => .error e
  | none => .ok b

theorem arrayOver_eq (t : PairTable) (base : IntParams) (k : ArrayKey) :
    arrayOver t base k = refusedOr (complaint? t (fun k => (base.array k).length) (.array k))
      ((t.edit.apply base).array k) := by
  rw [arrayOver_int, Edit.array_apply]
  simp only [complaint?, PairTable.edit, PairTable.ints?]
  cases t.get? k.name with
  | none => rfl
  | some v =>
    simp only [Option.bind_some]
    cases r : PairTable.readInts v with
    | error e => rfl
    | ok ns =>
      simp only
      split <;> rfl

theorem scalarOver_eq (t : PairTable) (base : IntParams) (k : ScalarKey) :
    scalarOver t base k = refusedOr (complaint? t (fun k => (base.array k).length) (.scalar k))
      ((t.edit.apply base).scalar k) := by
  rw [Edit.scalar_apply]
  simp only [scalarOver, complaint?, PairTable.edit, PairTable.int?]
  cases t.get? k.name with
  | none => rfl
  | some v =>
    simp only [Option.bind_some]
    cases Numeral.readWord v <;> rfl

theorem refusedOr_bind {ε β γ : Type} (reason : Option ε) (b : β) (f : β → Except ε γ) :
    (refusedOr reason b >>= f) = match reason with
      | some e => .error e
      | none => f b := by
  cases reason <;> rfl

/-- The parameters are read in a fixed order, and the first complaint counts. -/
theorem tunablesOver_eq (t : PairTable) (base : IntParams) :
    tunablesOver t base = refusedOr
      (ParamSet.Field.tunable.findSome? (complaint? t fun k => (base.array k).length))
      (t.edit.apply base).tunables := by
  have order : ParamSet.Field.tunable = [.array .rssi24, .array .rssi5, .array .rssi6,
    .array .packetRates, .scalar .horizon, .scalar .nud, .scalar .experiment] := rfl
  simp only [tunablesOver, arrayOver_eq, scalarOver_eq, refusedOr_bind, order,
    List.findSome?_cons, List.findSome?_nil]
  cases complaint? t (fun k => (base.array k).length) (.array .rssi24) with
  | some e => rfl
  | none =>
  cases complaint? t (fun k => (base.array k).length) (.array .rssi5) with
  | some e => rfl
  | none =>
  cases complaint? t (fun k => (base.array k).length) (.array .rssi6) with
  | some e => rfl
  | none =>
  cases complaint? t (fun k => (base.array k).length) (.array .packetRates) with
  | some e => rfl
  | none =>
  cases complaint? t (fun k => (base.array k).length) (.scalar .horizon) with
  | some e => rfl
  | none =>
  cases complaint? t (fun k => (base.array k).length) (.scalar .nud) with
  | some e => rfl
  | none =>
  cases complaint? t (fun k => (base.array k).length) (.scalar .experiment) with
  | some e => rfl
  | none => rfl

/-- The edit of a text. -/
def editOf (text : String) : Edit := (pairTable .comma text).edit

/-- In a text that passes the check no piece is passed over, and so the pieces outnumber
    the keys of its table exactly if a key is repeated. -/
theorem size_pairTable_eq_iff {text : String} (h : accepts text = true) :
    (pairTable .comma text).size = (pieces .comma text.toList).length ↔ (keysOf text).Nodup := by
  rw [pairTable, pairsOf_of_accepts h, ← length_writtenPairs, Table.size_ofPairs_eq_length_iff,
    keysOf]

section Parse

variable {α ρ : Type} [Quantity α] [Row ρ α] {text : String}

theorem parse_of_not_nodup (h : accepts text = true) (repeated : ¬ (keysOf text).Nodup)
    (base : ParamSet α ρ) : parse text base = .error (.repeatedKey text) :=
  parse_of_repeated h (mt (size_pairTable_eq_iff h).1 repeated) base

theorem parse_of_nodup (h : accepts text = true) (distinct : (keysOf text).Nodup)
    (base : ParamSet α ρ) :
    parse text base
      = (tunablesOver (pairTable .comma text) base).map fun t => { base with tunables := t } := by
  simp only [parse, checkGrammar, h, if_true, (size_pairTable_eq_iff h).2 distinct, ne_eq,
    not_true_eq_false, if_false]
  cases tunablesOver (pairTable .comma text) base <;> rfl

end Parse

/-- **Parsing refuses a text or applies its edit.** -/
theorem parse_eq (text : String) (base : IntParams) :
    parse text base = refusedOr (refusal? text fun k => (base.array k).length)
      ((editOf text).apply base) := by
  cases h : accepts text with
  | false =>
    rw [parse_of_malformed h, refusal?_of_malformed h]
    rfl
  | true =>
    by_cases distinct : (keysOf text).Nodup
    · rw [parse_of_nodup h distinct, tunablesOver_eq, refusal?_of_distinct h distinct]
      cases ParamSet.Field.tunable.findSome?
        (complaint? (pairTable .comma text) fun k => (base.array k).length) <;> rfl
    · rw [parse_of_not_nodup h distinct, refusal?_of_repeated h distinct]
      rfl

/-! ## Texts on sound sets -/

/-- The edit that a text comes to on sound sets, or why they all reject it. -/
def verdict (text : String) : Except Rejection Edit :=
  match refusal? text ArrayKey.size with
  | some e => .error (.override e)
  | none => (editOf text).judged

/-- A text that is not refused by complete sets writes complete arrays. -/
theorem complete_editOf {text : String} (h : refusal? text ArrayKey.size = none) :
    (editOf text).Complete := by
  intro k ns hk
  have fits : complaint? (pairTable .comma text) ArrayKey.size (.array k) = none := by
    obtain ⟨grammar, distinct⟩ := accepts_of_refusal?_eq_none h
    rw [refusal?_of_distinct grammar distinct] at h
    exact List.findSome?_eq_none_iff.1 h _ (by cases k <;> decide)
  simp only [editOf, PairTable.edit, PairTable.ints?, Option.bind_eq_some_iff] at hk
  obtain ⟨v, found, read⟩ := hk
  cases r : PairTable.readInts v with
  | error e => rw [r] at read; cases read
  | ok ms =>
    rw [r] at read
    obtain rfl := Option.some.inj read
    simpa [complaint?, found, r] using fits

end Override

end RoamTuning
