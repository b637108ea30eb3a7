import RoamTuning.Override
import RoamTuning.Override.Grammar
import RoamTuning.ParamSet.Domain
import RoamTuning.Proofs.Harmless
import RoamTuning.Text.Case

/-!
# What messages are made of

Messages quote what they were given: a value that does not fit, or a text that is no
numeral. They quote it shown, so they are harmless. What is said of override text and of a
set that does not pass its checks is plain, because nothing of the text is repeated but
what display leaves of it, and a violation is about numbers: what is no number fails the
comparison before it comes into a message.

Results:

* `harmless_toInts`, `harmless_items`: values that do not convert.
* `tells_check`: a set that passes the checks has numbers only, and otherwise the message
  is plain.
* `plain_render`: such a set is plain as override text.
* `plain_sanitize`, `tame_of_parse`: override text that is rejected.
-/

namespace RoamTuning

open Text

/-! ## Values that do not fit -/

theorem harmless_problem (p : Numeral.Problem) : Harmless p.message := by
  cases p with
  | notPlain t => exact Consists.append (by decide +kernel) (harmless_quoted t)
  | outOfRange t => exact Consists.append (by decide +kernel) (harmless_quoted t)
  | notLiteral t =>
    refine Consists.append (by decide +kernel) (consists_ofList.2 fun c hc => ?_)
    rw [isControl_of_mem_quotedChars (List.mem_of_mem_take hc)]
    rfl
  | tooManyDigits count =>
    have limit : Harmless (Numeral.text Numeral.digitLimit) := (plain_numeral _).harmless
    have digits : Harmless (Numeral.text count) := (plain_numeral _).harmless
    exact (Consists.append_append (by decide +kernel) limit (by decide +kernel)).append_append
      digits (by decide +kernel)
  | unwritable =>
    have limit : Harmless (Numeral.text Numeral.digitLimit) := (plain_numeral _).harmless
    exact (Consists.append_append (by decide +kernel) limit (by decide +kernel)).append
      (by decide +kernel)

namespace Value

theorem plain_kindName (v : Value) : Plain v.kindName := by
  have kinds : ∀ kind ∈ ["NoneType", "bool", "int", "float", "str", "list", "tuple", "dict"],
      Plain kind := by decide +kernel
  exact kinds _ (by cases v <;> simp [kindName])

theorem harmless_notConvertible (v : Value) : Harmless (Misfit.notConvertible v.kindName).message :=
  Consists.append_append (by decide +kernel) v.plain_kindName.harmless (by decide +kernel)

theorem harmless_notIterable (v : Value) : Harmless (Misfit.notIterable v.kindName).message :=
  Consists.append_append (by decide +kernel) v.plain_kindName.harmless (by decide +kernel)

theorem harmless_toInt {v : Value} {m : Misfit} (h : v.toInt = .error m) : Harmless m.message := by
  cases v with
  | int n => cases h
  | bool b => cases h
  | float x =>
    cases x with
    | nan => exact Except.error.inj h ▸ by decide +kernel
    | infinite b => exact Except.error.inj h ▸ by decide +kernel
    | finite s n e => cases h
  | text s =>
    simp only [toInt] at h
    cases read : Numeral.readAny s with
    | ok n =>
      rw [read] at h
      cases h
    | error p =>
      rw [read] at h
      exact Except.error.inj h ▸ harmless_problem p
  | _ => exact Except.error.inj h ▸ harmless_notConvertible _

theorem harmless_toInts {vs : List Value} {m : Misfit} (h : toInts vs = .error m) :
    Harmless m.message := by
  induction vs with
  | nil => cases h
  | cons v r ih =>
    rcases Outcome.bind_eq_error_iff.1 h with first | ⟨n, -, h⟩
    · exact harmless_toInt first
    · rcases Outcome.bind_eq_error_iff.1 h with rest | ⟨ns, -, h⟩
      · exact ih rest
      · cases h

theorem harmless_items {v : Value} {m : Misfit} (h : v.items = .error m) : Harmless m.message := by
  cases v with
  | list vs => cases h
  | tuple vs => cases h
  | text s => cases h
  | object ms => cases h
  | _ => exact Except.error.inj h ▸ harmless_notIterable _

end Value

/-! ## Checks -/

/-- What a check tells: something that holds if it passes, and a plain message if it finds
    a violation. -/
structure Tells (c : Except Defect Unit) (passed : Prop) : Prop where
  passes : c = .ok () → passed
  fails : ∀ v, c = .error (.violation v) → Plain v.message

namespace Tells

variable {x y : Except Defect Unit} {P Q : Prop}

theorem mono (h : Tells x P) (imp : P → Q) : Tells x Q := ⟨fun e => imp (h.passes e), h.fails⟩

theorem pass (h : P) : Tells (.ok ()) P := ⟨fun _ => h, nofun⟩

/-- A second check may count on what the first one tells. -/
theorem andThen (hx : Tells x P) (hy : P → Tells y Q) : Tells (x >>= fun _ => y) (P ∧ Q) where
  passes h := by
    obtain ⟨first, second⟩ := Outcome.then_eq_ok_iff.1 h
    exact ⟨hx.passes first, (hy (hx.passes first)).passes second⟩
  fails v h := by
    rcases Outcome.then_eq_error_iff.1 h with first | ⟨first, second⟩
    · exact hx.fails v first
    · exact (hy (hx.passes first)).fails v second

theorem forM {β : Type} {f : β → Except Defect Unit} {P : β → Prop} (h : ∀ b, Tells (f b) (P b))
    (bs : List β) : Tells (bs.forM f) (∀ b ∈ bs, P b) := by
  induction bs with
  | nil => exact pass nofun
  | cons b r ih => exact ((h b).andThen fun _ => ih).mono fun both => List.forall_mem_cons.2 both

end Tells

/-- The parts of a violation of which its message is put together. -/
theorem plain_violation {v : Violation} (field : Plain v.field) (value : v.value.IsNumber)
    (reason : Plain v.bound.reason) : Plain v.message :=
  ((Consists.append (by decide +kernel) field).append_append (by decide +kernel)
    (Value.plain_shown_of_number value)).append_append (by decide +kernel) reason

/-- A comparison with a number tells that the value is a number, too. -/
theorem tells_refuseIf {c : Value.Comparison} {v w : Value} {name : String} {bound : Bound}
    (number : w.IsNumber) (field : Plain name) (reason : Plain bound.reason) :
    Tells (refuseIf (Value.compare c v w) ⟨name, v, bound⟩) v.IsNumber := by
  cases compared : Value.compare c v w with
  | error m => exact ⟨nofun, nofun⟩
  | ok b =>
    have same := Value.isNumber_of_compare compared number
    cases b with
    | false => exact .pass same
    | true =>
      refine ⟨nofun, fun v h => ?_⟩
      obtain rfl := Defect.violation.inj (Except.error.inj h)
      exact plain_violation field same reason

theorem plain_elementName {name : String} (h : Plain name) (index : Nat) :
    Plain (elementName name index) :=
  ((h.append (by decide +kernel)).append (plain_numeral index)).append (by decide +kernel)

section Checks

variable {α ρ : Type} [Quantity α] [Row ρ α]

/-- Whether a quantity is a number. -/
def IsNumeric (x : α) : Prop := (Quantity.value x).IsNumber

theorem isNumeric_ofInt (n : Int) : IsNumeric (Quantity.ofInt n : α) := by
  rw [IsNumeric, Quantity.value_ofInt]
  exact Value.isNumber_int n

theorem tells_checkRange {name : String} {x low high : α} (field : Plain name)
    (hlow : IsNumeric low) (hhigh : IsNumeric high) :
    Tells (checkRange name x low high) (IsNumeric x) := by
  have reason : Plain (Bound.within (Quantity.value low) (Quantity.value high)).reason :=
    (Consists.append (by decide +kernel) (Value.plain_written_of_number hlow)).append_append
      (by decide +kernel) (Value.plain_written_of_number hhigh) |>.append (by decide +kernel)
  exact ((tells_refuseIf hlow field reason).andThen fun _ => tells_refuseIf hhigh field reason).mono
    And.left

theorem tells_checkRssiFrom {name : String} (field : Plain name) {index : Nat} {low : α}
    (hlow : IsNumeric low) (xs : List α) :
    Tells (checkRssiFrom name index low xs) (∀ x ∈ xs, IsNumeric x) := by
  induction xs generalizing index low with
  | nil => exact .pass nofun
  | cons x r ih =>
    have first := tells_checkRange (x := x) (plain_elementName field index) hlow
      (isNumeric_ofInt rssiMax)
    -- the element is the bound of the next one
    exact (first.andThen fun number => ih number).mono fun both => List.forall_mem_cons.2 both

theorem tells_checkRisingFrom {name : String} (field : Plain name) {index : Nat} {low : α}
    (hlow : IsNumeric low) (xs : List α) :
    Tells (checkRisingFrom name index low xs) (∀ x ∈ xs, IsNumeric x) := by
  induction xs generalizing index low with
  | nil => exact .pass nofun
  | cons x r ih =>
    have reason : Plain (Bound.atLeast (Quantity.value low)).reason :=
      Consists.append (by decide +kernel) (Value.plain_written_of_number hlow)
    have first : Tells (refuseIf ((Quantity.value x).isBelow (Quantity.value low))
        ⟨elementName name index, Quantity.value x, .atLeast (Quantity.value low)⟩) (IsNumeric x) :=
      tells_refuseIf hlow (plain_elementName field index) reason
    exact (first.andThen fun number => ih number).mono fun both => List.forall_mem_cons.2 both

namespace ParamSet

theorem plain_name_array (k : ArrayKey) : Plain k.name := by
  cases k <;> decide +kernel

theorem plain_name_scalar (k : ScalarKey) : Plain k.name := by
  cases k <;> decide +kernel

/-- An array that passes has numbers for items, if it has items at all. -/
theorem tells_checkArray (p : ParamSet α ρ) (k : ArrayKey) :
    Tells (p.checkArray k) (∀ x ∈ Row.toList (p.array k), IsNumeric x) := by
  unfold checkArray Row.toList
  cases Row.items (p.array k) with
  | error m => exact ⟨nofun, nofun⟩
  | ok xs =>
    cases k with
    | packetRates => exact tells_checkRisingFrom (plain_name_array _) (isNumeric_ofInt 0) xs
    | _ => exact tells_checkRssiFrom (plain_name_array _) (isNumeric_ofInt rssiMin) xs

/-- What is numeric of a set that passes the checks. -/
structure Numeric (p : ParamSet α ρ) : Prop where
  arrays : ∀ k ∈ ArrayKey.all, ∀ x ∈ Row.toList (p.array k), IsNumeric x
  scalars : ∀ k ∈ ScalarKey.all, IsNumeric (p.scalar k)

/-- **What the checks tell**: a set that passes has numbers for all that can be changed,
    and what is said of one that does not is plain. -/
theorem tells_check (p : ParamSet α ρ) : Tells p.check p.Numeric := by
  have scalars : ∀ k, Tells (p.checkScalar k) (IsNumeric (p.scalar k)) := fun k =>
    tells_checkRange (plain_name_scalar k) (isNumeric_ofInt _) (isNumeric_ofInt _)
  have times : ∀ c : Constant, Tells (p.checkMinutes c) True := fun c =>
    (tells_checkRange (by cases c <;> decide) (isNumeric_ofInt _) (isNumeric_ofInt _)).mono
      fun _ => trivial
  refine ((Tells.forM p.tells_checkArray _).andThen fun _ =>
    (Tells.forM scalars _).andThen fun _ => Tells.forM times _).mono ?_
  rintro ⟨arrays, scalars, -⟩
  exact ⟨arrays, scalars⟩

end ParamSet

/-! ## Override text -/

namespace Override

theorem plain_renderArray {r : ρ} (h : ∀ x ∈ Row.toList r, IsNumeric x) :
    Plain (renderArray r) := by
  refine consists_joined (by decide +kernel) fun t ht => ?_
  obtain ⟨x, hx, rfl⟩ := List.mem_map.1 ht
  exact Value.plain_written_of_number (h x hx)

/-- A set that passes the checks is plain as override text. -/
theorem plain_render {p : ParamSet α ρ} (valid : p.check = .ok ()) : Plain (render p) := by
  have numeric := p.tells_check.passes valid
  refine consists_joined (by decide +kernel) fun t ht => ?_
  obtain ⟨e, he, rfl⟩ := List.mem_map.1 ht
  have both : Plain e.1 ∧ Plain e.2 := by
    rcases List.mem_append.1 he with array | scalar
    · obtain ⟨k, hk, rfl⟩ := List.mem_map.1 array
      exact ⟨ParamSet.plain_name_array k, plain_renderArray (numeric.arrays k hk)⟩
    · obtain ⟨k, hk, rfl⟩ := List.mem_map.1 scalar
      exact ⟨ParamSet.plain_name_scalar k, Value.plain_written_of_number (numeric.scalars k hk)⟩
  exact (both.1.append (by decide +kernel)).append both.2

theorem isPlainChar_of_range {c : Char} (low : 0x20 ≤ c.toNat) (high : c.toNat ≤ 0x7E) :
    isPlainChar c = true :=
  Bool.and_eq_true_iff.2 ⟨decide_eq_true low, decide_eq_true high⟩

theorem isPlainChar_of_isShown {c : Char} (h : isShown c = true) : isPlainChar c = true := by
  have letter : c.isAlpha = true → isPlainChar c = true := fun letter => by
    rcases Bool.or_eq_true_iff.1 letter with upper | lower
    · obtain ⟨low, high⟩ := isUpper_iff_toNat.1 upper
      exact isPlainChar_of_range (by omega) (by omega)
    · obtain ⟨low, high⟩ := isLower_iff_toNat.1 lower
      exact isPlainChar_of_range (by omega) (by omega)
  have digit : c.isDigit = true → isPlainChar c = true := fun digit => by
    obtain ⟨low, high⟩ : 0x30 ≤ c.toNat ∧ c.toNat ≤ 0x39 := Char.isDigit_iff_toNat.1 digit
    exact isPlainChar_of_range (by omega) (by omega)
  simp only [isShown, continuesKey, startsKey, inValue, Bool.or_eq_true, beq_iff_eq] at h
  rcases h with ((((alpha | rfl) | number) | ((((number | rfl) | rfl) | rfl) | rfl)) | rfl) | rfl
  · exact letter alpha
  · rfl
  · exact digit number
  · exact digit number
  all_goals rfl

theorem isPlainChar_shownChar (c : Char) : isPlainChar (shownChar c) = true := by
  unfold shownChar
  split
  · exact isPlainChar_of_isShown ‹_›
  · rfl

/-- **Of a text that may hold anything, display leaves plain characters only.** -/
theorem plain_sanitize (text : String) : Plain (sanitize text) := by
  refine consists_ofList.2 fun c hc => ?_
  have mapped : ∀ d ∈ text.toList.map shownChar, isPlainChar d = true := by
    intro d hd
    obtain ⟨e, -, rfl⟩ := List.mem_map.1 hd
    exact isPlainChar_shownChar e
  simp only [display] at hc
  split at hc
  · rcases List.mem_append.1 hc with front | dots
    · exact mapped c (List.mem_of_mem_take front)
    · have points : ∀ d ∈ ['.', '.', '.'], isPlainChar d = true := List.all_eq_true.1 rfl
      exact points c dots
  · exact mapped c hc

theorem plain_reason (r : Reason) : Plain r.message := by
  cases r with
  | notIntegers => decide +kernel
  | notAnInteger => decide +kernel
  | wrongCount expected got =>
    exact (Consists.append (by decide +kernel) (plain_numeral _)).append_append (by decide +kernel)
      (plain_numeral _)

/-- Whether what is said of a text is plain, if the text is to blame and not the base. -/
def Error.Tame (e : Error) : Prop := (∃ m, e = .unfit m) ∨ Plain e.message

theorem tame_badValue {key value : String} (h : Plain key) (r : Reason) :
    (Error.badValue key value r).Tame :=
  .inr ((Consists.append (by decide +kernel) h).append_append (by decide +kernel) (plain_reason r))

omit [Quantity α] in
theorem tame_of_arrayOver {t : PairTable} {base : ParamSet α ρ} {k : ArrayKey} {e : Error}
    (h : arrayOver t base k = .error e) : e.Tame := by
  have named : ∀ value reason, (Error.badValue k.name value reason).Tame := fun _ =>
    tame_badValue (ParamSet.plain_name_array k)
  unfold arrayOver at h
  rcases Outcome.bind_eq_error_iff.1 h with unfit | ⟨size, -, h⟩
  · cases size : Row.size (base.array k) with
    | ok n =>
      rw [size] at unfit
      cases unfit
    | error m =>
      rw [size] at unfit
      exact .inl ⟨m, (Except.error.inj unfit).symm⟩
  · split at h
    · cases h
    · split at h
      · exact Except.error.inj h ▸ named _ _
      · split at h
        · cases h
        · exact Except.error.inj h ▸ named _ _

omit [Row ρ α] in
theorem tame_of_scalarOver {t : PairTable} {base : ParamSet α ρ} {k : ScalarKey} {e : Error}
    (h : scalarOver t base k = .error e) : e.Tame := by
  unfold scalarOver at h
  split at h
  · cases h
  · split at h
    · exact Except.error.inj h ▸ tame_badValue (ParamSet.plain_name_scalar k) _
    · cases h

theorem tame_of_tunablesOver {t : PairTable} {base : ParamSet α ρ} {e : Error}
    (h : tunablesOver t base = .error e) : e.Tame := by
  unfold tunablesOver at h
  iterate 4 refine Outcome.of_bind_eq_error (fun _ => tame_of_arrayOver) (fun _ _ h => ?_) h
  iterate 3 refine Outcome.of_bind_eq_error (fun _ => tame_of_scalarOver) (fun _ _ h => ?_) h
  cases h

/-- **What is said of a text that cannot be applied is plain**, whatever is in it. -/
theorem tame_of_parse {text : String} {base : ParamSet α ρ} {e : Error}
    (h : parse text base = .error e) : e.Tame := by
  refine Outcome.of_bind_eq_error (fun e grammar => ?_) (fun _ e h => ?_) h
  · unfold checkGrammar at grammar
    split at grammar
    · cases grammar
    · exact Except.error.inj grammar ▸
        .inr (show Plain "Override does not match key=value grammar" by decide +kernel)
  · dsimp only at h
    split at h
    · exact Except.error.inj h ▸ .inr (show Plain "Override has duplicate keys" by decide +kernel)
    · refine Outcome.of_bind_eq_error (fun _ => tame_of_tunablesOver) (fun _ _ h => ?_) h
      cases h

end Override

end Checks

end RoamTuning
