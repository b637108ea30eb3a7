import RoamTuning.Outcome
import RoamTuning.ParamSet

/-!
# The domain of parameter sets

Signal thresholds are negative, not below -127 dBm and never fall from one to
the next; packet rates start at zero or more and never fall; the scalars and
the two selection times have ranges of their own. `ParamSet.check` fails at the
first parameter that breaks this, in a fixed order, or that cannot be checked;
`ParamSet.InDomain` says what holds of a set of integers that passes.

Results:

* `checkRange_eq_ok_iff`: an integer passes exactly when it is in its range.
* `check_eq_ok_iff`: the sets of integers that pass are those in the domain.
* `isViolation_of_check`: sets of integers can always be checked.
* `isValid_iff`: the same for the test.
-/

namespace RoamTuning

/-- The bound that a value breaks. -/
inductive Bound where
  /-- The value has to lie in a range. -/
  | within (low high : Value)
  /-- The value has to be at least as great as another. -/
  | atLeast (low : Value)
deriving DecidableEq, Repr

/-- A parameter, or an element of one, whose value breaks a bound. Model of
    `ValidationError`. -/
structure Violation where
  field : String
  value : Value
  bound : Bound
deriving DecidableEq, Repr

/-- Why a set may not be active. -/
inductive Defect where
  | violation (v : Violation)
  /-- An array has no items, or a parameter cannot be compared with its bound. -/
  | uncheckable (m : Value.Misfit)
deriving DecidableEq, Repr

/-- What is said of a broken bound. -/
def Bound.reason : Bound → String
  | .within low high => "outside [" ++ low.written ++ ", " ++ high.written ++ "]"
  | .atLeast low => "must be >= " ++ low.written

/-- What is said of a violation. Its integers can be written: they have at most
    `Numeral.digitLimit` digits. -/
def Violation.message (v : Violation) : String :=
  "Invalid " ++ v.field ++ "=" ++ v.value.shown ++ ": " ++ v.bound.reason

/-- What is said of a defect. -/
def Defect.message : Defect → String
  | violation v => v.message
  | uncheckable m => m.message

/-! ## Bounds -/

/-- The least signal strength of a threshold (dBm). -/
def rssiMin : Int := -127

/-- The greatest signal strength of a threshold (dBm). -/
def rssiMax : Int := -1

/-- The least forecast horizon in seconds. -/
def horizonMin : Int := -9

/-- The greatest forecast horizon in seconds. -/
def horizonMax : Int := 60

/-- The least eagerness of reachability checks. -/
def nudMin : Int := 0

/-- The greatest eagerness of reachability checks. -/
def nudMax : Int := 10

/-- The least experiment identifier. -/
def experimentMin : Int := 0

/-- The greatest experiment identifier. -/
def experimentMax : Int := Numeral.wordMax

/-- The least selection time in minutes. -/
def minutesMin : Int := 1

/-- The greatest selection time in minutes, such that its milliseconds still
    fit in 32 bits. -/
def minutesMax : Int := Numeral.wordMax / 60000

/-! ## Checks -/

variable {α ρ : Type} [Quantity α] [Row ρ α]

/-- The name of an element of an array. -/
def elementName (name : String) (index : Nat) : String :=
  name ++ "[" ++ Numeral.text index ++ "]"

/-- Fails with a violation if a comparison holds. -/
def refuseIf (comparison : Except Value.Misfit Bool) (v : Violation) : Except Defect Unit :=
  match comparison with
  | .ok true => .error (.violation v)
  | .ok false => .ok ()
  | .error m => .error (.uncheckable m)

/-- Checks that a value lies in a range. Model of `validate_range`. -/
def checkRange (name : String) (value low high : α) : Except Defect Unit := do
  let v := Quantity.value value
  let violation : Violation := ⟨name, v, .within (Quantity.value low) (Quantity.value high)⟩
  refuseIf (v.isBelow (Quantity.value low)) violation
  refuseIf (v.isAbove (Quantity.value high)) violation

/-- Checks thresholds from a position on, where `low` is the least that the
    next one may be. -/
def checkRssiFrom (name : String) : (index : Nat) → (low : α) → List α → Except Defect Unit
  | _, _, [] => .ok ()
  | index, low, x :: r => do
    checkRange (elementName name index) x low (Quantity.ofInt rssiMax)
    checkRssiFrom name (index + 1) x r

/-- Checks the thresholds of a band. Model of `validate_rssi_array`. -/
def checkRssi (name : String) (xs : List α) : Except Defect Unit :=
  checkRssiFrom name 0 (Quantity.ofInt rssiMin) xs

/-- Checks rates from a position on, where `low` is the least that the next one
    may be. -/
def checkRisingFrom (name : String) : (index : Nat) → (low : α) → List α → Except Defect Unit
  | _, _, [] => .ok ()
  | index, low, x :: r => do
    let v := Quantity.value x
    refuseIf (v.isBelow (Quantity.value low))
      ⟨elementName name index, v, .atLeast (Quantity.value low)⟩
    checkRisingFrom name (index + 1) x r

/-- Checks rates, which start at zero or more. Model of
    `validate_ordered_non_negative_array`. -/
def checkRising (name : String) (xs : List α) : Except Defect Unit :=
  checkRisingFrom name 0 (Quantity.ofInt 0) xs

namespace ParamSet

/-- Checks an array, which has to have items. -/
def checkArray (p : ParamSet α ρ) (k : ArrayKey) : Except Defect Unit := do
  let xs ← (Row.items (p.array k)).mapError .uncheckable
  match k with
  | .packetRates => checkRising k.name xs
  | _ => checkRssi k.name xs

/-- The range of a scalar. -/
def scalarRange : ScalarKey → Int × Int
  | .horizon => (horizonMin, horizonMax)
  | .nud => (nudMin, nudMax)
  | .experiment => (experimentMin, experimentMax)

/-- Checks a scalar. -/
def checkScalar (p : ParamSet α ρ) (k : ScalarKey) : Except Defect Unit :=
  checkRange k.name (p.scalar k) (Quantity.ofInt (scalarRange k).1)
    (Quantity.ofInt (scalarRange k).2)

/-- Checks a selection time. -/
def checkMinutes (p : ParamSet α ρ) (c : Constant) : Except Defect Unit :=
  checkRange c.name (p.constant c) (Quantity.ofInt minutesMin) (Quantity.ofInt minutesMax)

/-- The constants that are selection times. -/
def selectionTimes : List Constant :=
  [.lastUnmeteredSelectionMinutes, .lastMeteredSelectionMinutes]

/-- Checks a set: the arrays, then the scalars, then the selection times. Model of
    `validate_values`. -/
def check (p : ParamSet α ρ) : Except Defect Unit := do
  ArrayKey.all.forM p.checkArray
  ScalarKey.all.forM p.checkScalar
  selectionTimes.forM p.checkMinutes

/-- The test whether a set has no violation; it cannot be answered if a
    parameter cannot be checked. Model of `is_valid`. -/
def isValid (p : ParamSet α ρ) : Except Value.Misfit Bool :=
  match p.check with
  | .ok () => .ok true
  | .error (.violation _) => .ok false
  | .error (.uncheckable m) => .error m

/-- The set itself if it passes the checks. -/
def validated (p : ParamSet α ρ) : Except Defect (ParamSet α ρ) :=
  p.check.map fun _ => p

/-- What holds of the thresholds of a band. -/
def RssiInDomain (ns : List Int) : Prop :=
  (∀ n ∈ ns, rssiMin ≤ n ∧ n ≤ rssiMax) ∧ ns.Pairwise (· ≤ ·)

/-- What holds of the packet rates. -/
def RatesInDomain (ns : List Int) : Prop :=
  (∀ n ∈ ns, 0 ≤ n) ∧ ns.Pairwise (· ≤ ·)

/-- The sets of integers that may be active. -/
structure InDomain (p : IntParams) : Prop where
  rssi : ∀ b, RssiInDomain (p.rssi b)
  rates : RatesInDomain p.tunables.packetRates
  horizon : horizonMin ≤ p.tunables.horizon ∧ p.tunables.horizon ≤ horizonMax
  nud : nudMin ≤ p.tunables.nud ∧ p.tunables.nud ≤ nudMax
  experiment : experimentMin ≤ p.tunables.experiment ∧ p.tunables.experiment ≤ experimentMax
  unmetered : minutesMin ≤ p.platform.lastUnmeteredSelectionMinutes
    ∧ p.platform.lastUnmeteredSelectionMinutes ≤ minutesMax
  metered : minutesMin ≤ p.platform.lastMeteredSelectionMinutes
    ∧ p.platform.lastMeteredSelectionMinutes ≤ minutesMax

end ParamSet

/-! ## Sets of integers that pass -/

theorem refuseIf_ok (b : Bool) (v : Violation) :
    refuseIf (.ok b) v = if b then .error (.violation v) else .ok () := by
  cases b <;> rfl

theorem checkRange_eq_ok_iff {name : String} {value low high : Int} :
    checkRange name value low high = .ok () ↔ low ≤ value ∧ value ≤ high := by
  simp only [checkRange, Outcome.then_eq_ok_iff, Quantity.value_int, Value.isBelow_int,
    Value.isAbove_int, refuseIf_ok]
  simp

theorem checkRssiFrom_eq_ok_iff {name : String} {index : Nat} {low : Int} {ns : List Int} :
    checkRssiFrom name index low ns = .ok ()
      ↔ (∀ n ∈ ns, low ≤ n ∧ n ≤ rssiMax) ∧ ns.Pairwise (· ≤ ·) := by
  induction ns generalizing index low with
  | nil => simp [checkRssiFrom]
  | cons n r ih =>
    simp only [checkRssiFrom, Outcome.then_eq_ok_iff, checkRange_eq_ok_iff, ih,
      Quantity.ofInt_int, List.forall_mem_cons, List.pairwise_cons]
    constructor
    · rintro ⟨hn, hr, hp⟩
      exact ⟨⟨hn, fun m hm => ⟨Int.le_trans hn.1 (hr m hm).1, (hr m hm).2⟩⟩,
        fun m hm => (hr m hm).1, hp⟩
    · rintro ⟨⟨hn, hr⟩, hle, hp⟩
      exact ⟨hn, fun m hm => ⟨hle m hm, (hr m hm).2⟩, hp⟩

theorem checkRisingFrom_eq_ok_iff {name : String} {index : Nat} {low : Int} {ns : List Int} :
    checkRisingFrom name index low ns = .ok ()
      ↔ (∀ n ∈ ns, low ≤ n) ∧ ns.Pairwise (· ≤ ·) := by
  induction ns generalizing index low with
  | nil => simp [checkRisingFrom]
  | cons n r ih =>
    have first : refuseIf ((Value.int n).isBelow (.int low))
        ⟨elementName name index, .int n, .atLeast (.int low)⟩ = .ok () ↔ low ≤ n := by
      rw [Value.isBelow_int, refuseIf_ok]
      simp
    simp only [checkRisingFrom, Outcome.then_eq_ok_iff, Quantity.value_int, first, ih,
      List.forall_mem_cons, List.pairwise_cons]
    constructor
    · rintro ⟨hn, hr, hp⟩
      exact ⟨⟨hn, fun m hm => Int.le_trans hn (hr m hm)⟩, hr, hp⟩
    · rintro ⟨⟨hn, -⟩, hle, hp⟩
      exact ⟨hn, hle, hp⟩

namespace ParamSet

theorem checkRssi_eq_ok_iff {name : String} {ns : List Int} :
    checkRssi name ns = .ok () ↔ RssiInDomain ns :=
  checkRssiFrom_eq_ok_iff

theorem checkRising_eq_ok_iff {name : String} {ns : List Int} :
    checkRising name ns = .ok () ↔ RatesInDomain ns :=
  checkRisingFrom_eq_ok_iff

theorem checkArray_int (p : IntParams) (k : ArrayKey) :
    p.checkArray k = match k with
      | .packetRates => checkRising k.name (p.array k)
      | _ => checkRssi k.name (p.array k) := by
  cases k <;> rfl

theorem check_eq_ok_iff (p : IntParams) : p.check = .ok () ↔ p.InDomain := by
  have bands : (∀ b, RssiInDomain (p.rssi b)) ↔ RssiInDomain p.tunables.rssi24
      ∧ RssiInDomain p.tunables.rssi5 ∧ RssiInDomain p.tunables.rssi6 :=
    ⟨fun h => ⟨h .ghz24, h .ghz5, h .ghz6⟩, fun h b => by
      cases b
      · exact h.1
      · exact h.2.1
      · exact h.2.2⟩
  have parts : p.check = .ok () ↔ (RssiInDomain p.tunables.rssi24
      ∧ RssiInDomain p.tunables.rssi5 ∧ RssiInDomain p.tunables.rssi6
      ∧ RatesInDomain p.tunables.packetRates)
      ∧ ((horizonMin ≤ p.tunables.horizon ∧ p.tunables.horizon ≤ horizonMax)
        ∧ (nudMin ≤ p.tunables.nud ∧ p.tunables.nud ≤ nudMax)
        ∧ (experimentMin ≤ p.tunables.experiment ∧ p.tunables.experiment ≤ experimentMax))
      ∧ (minutesMin ≤ p.platform.lastUnmeteredSelectionMinutes
          ∧ p.platform.lastUnmeteredSelectionMinutes ≤ minutesMax)
        ∧ (minutesMin ≤ p.platform.lastMeteredSelectionMinutes
          ∧ p.platform.lastMeteredSelectionMinutes ≤ minutesMax) := by
    simp only [check, Outcome.then_eq_ok_iff, Outcome.forM_eq_ok_iff, ArrayKey.all,
      ScalarKey.all, selectionTimes, List.forall_mem_cons, List.not_mem_nil, false_implies,
      implies_true, and_true, checkArray_int, checkScalar, checkMinutes, checkRssi_eq_ok_iff,
      checkRising_eq_ok_iff, checkRange_eq_ok_iff, Quantity.ofInt_int, and_assoc]
    rfl
  rw [parts]
  constructor
  · rintro ⟨⟨r2, r5, r6, pps⟩, ⟨h, n, e⟩, u, m⟩
    exact ⟨bands.2 ⟨r2, r5, r6⟩, pps, h, n, e, u, m⟩
  · rintro ⟨r, pps, h, n, e, u, m⟩
    obtain ⟨r2, r5, r6⟩ := bands.1 r
    exact ⟨⟨r2, r5, r6, pps⟩, ⟨h, n, e⟩, u, m⟩

theorem eq_of_validated {p q : ParamSet α ρ} (h : p.validated = .ok q) : q = p := by
  rw [validated] at h
  cases c : p.check with
  | ok _ => rw [c] at h; exact (Except.ok.inj h).symm
  | error d => rw [c] at h; cases h

theorem check_of_validated {p q : ParamSet α ρ} (h : p.validated = .ok q) : p.check = .ok () := by
  rw [validated] at h
  cases c : p.check with
  | ok _ => rfl
  | error d => rw [c] at h; cases h

theorem validated_eq_ok_iff {p q : IntParams} : p.validated = .ok q ↔ q = p ∧ p.InDomain := by
  rw [← check_eq_ok_iff, validated]
  cases p.check with
  | ok _ => simp [Except.map, eq_comm]
  | error d => simp [Except.map]

theorem inDomain_builtIn : builtIn.InDomain := (check_eq_ok_iff _).1 rfl

end ParamSet

/-! ## Sets of integers can be checked -/

/-- Whether a check, if it fails, fails with a violation. -/
def IsCheckable (c : Except Defect Unit) : Prop := ∀ m, c ≠ .error (.uncheckable m)

theorem isCheckable_ok : IsCheckable (.ok ()) := by
  simp [IsCheckable]

theorem isCheckable_refuseIf_ok (b : Bool) (v : Violation) :
    IsCheckable (refuseIf (.ok b) v) := by
  cases b <;> simp [IsCheckable, refuseIf]

theorem IsCheckable.then {x y : Except Defect Unit} (hx : IsCheckable x)
    (hy : IsCheckable y) : IsCheckable (x >>= fun _ => y) := by
  intro m h
  rcases Outcome.then_eq_error_iff.1 h with h | h
  · exact hx m h
  · exact hy m h.2

theorem isCheckable_forM {β : Type} {f : β → Except Defect Unit} (h : ∀ b, IsCheckable (f b))
    (bs : List β) : IsCheckable (bs.forM f) := by
  induction bs with
  | nil => exact isCheckable_ok
  | cons b r ih => exact (h b).then ih

theorem isCheckable_checkRange (name : String) (value low high : Int) :
    IsCheckable (checkRange name value low high) := by
  simp only [checkRange, Quantity.value_int, Value.isBelow_int, Value.isAbove_int]
  exact (isCheckable_refuseIf_ok _ _).then (isCheckable_refuseIf_ok _ _)

theorem isCheckable_checkRssiFrom (name : String) (index : Nat) (low : Int) (ns : List Int) :
    IsCheckable (checkRssiFrom name index low ns) := by
  induction ns generalizing index low with
  | nil => exact isCheckable_ok
  | cons n r ih => exact (isCheckable_checkRange _ _ _ _).then (ih _ _)

theorem isCheckable_checkRisingFrom (name : String) (index : Nat) (low : Int)
    (ns : List Int) : IsCheckable (checkRisingFrom name index low ns) := by
  induction ns generalizing index low with
  | nil => exact isCheckable_ok
  | cons n r ih =>
    simp only [checkRisingFrom, Quantity.value_int, Value.isBelow_int]
    exact (isCheckable_refuseIf_ok _ _).then (ih _ _)

namespace ParamSet

theorem isCheckable_check (p : IntParams) : IsCheckable p.check := by
  refine (isCheckable_forM (fun k => ?_) _).then ((isCheckable_forM (fun k => ?_) _).then
    (isCheckable_forM (fun c => isCheckable_checkRange _ _ _ _) _))
  · cases k
    case packetRates => exact isCheckable_checkRisingFrom _ _ _ _
    all_goals exact isCheckable_checkRssiFrom _ _ _ _
  · exact isCheckable_checkRange _ _ _ _

theorem isViolation_of_check {p : IntParams} {d : Defect} (h : p.check = .error d) :
    ∃ v, d = .violation v := by
  cases d with
  | violation v => exact ⟨v, rfl⟩
  | uncheckable m => exact absurd h (p.isCheckable_check m)

theorem isValid_iff (p : IntParams) : p.isValid = .ok true ↔ p.InDomain := by
  rw [← check_eq_ok_iff, isValid]
  cases p.check with
  | ok _ => simp
  | error d => cases d <;> simp

end ParamSet

end RoamTuning
