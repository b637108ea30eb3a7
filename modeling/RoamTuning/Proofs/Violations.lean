import RoamTuning.ParamSet.Domain

/-!
# The first violation

The checks go through the items of a set in a fixed order: the elements of its arrays by
their positions, then its scalars and then its selection times. An item fits if it is in
its range and not below the element before it. The loops over arrays keep a single bound,
the least that the next element may be. It is the element before; since a check ends at the
first item that does not fit, this element was in the range, and no bound is lost.

Results:

* `checkRssiFrom_eq`, `checkRisingFrom_eq`: what the loops over arrays report.
* `check_eq`: a check reports the first item that does not fit.
* `inDomain_iff_forall_fits`: a set is in the domain if all its items fit.
* `check_outcome`: the outcomes of a check.
-/

namespace RoamTuning

/-! ## Items -/

/-- A value of a set, and what it has to fit. -/
structure Item where
  field : String
  value : Int
  low : Int
  high : Option Int
  /-- The element before it, where it is an element of an array. -/
  previous : Option Int
deriving DecidableEq, Repr

namespace Item

/-- What holds of an item that is in its range and not below the element before it. -/
structure Fits (e : Item) : Prop where
  low_le : e.low ≤ e.value
  le_high : ∀ high ∈ e.high, e.value ≤ high
  rises : ∀ b ∈ e.previous, b ≤ e.value

/-- The least that an item may be, after elements that fit. -/
def least (e : Item) : Int := e.previous.getD e.low

/-- The bound that is reported to be broken. -/
def bound (e : Item) : Bound :=
  match e.high with
  | some high => .within (.int e.least) (.int high)
  | none => .atLeast (.int e.least)

/-- What is reported of an item that does not fit. -/
def violation (e : Item) : Violation := ⟨e.field, .int e.value, e.bound⟩

instance : DecidablePred Fits := fun e =>
  decidable_of_iff (e.low ≤ e.value ∧ (∀ high ∈ e.high, e.value ≤ high)
    ∧ ∀ b ∈ e.previous, b ≤ e.value)
    ⟨fun h => ⟨h.1, h.2.1, h.2.2⟩, fun h => ⟨h.low_le, h.le_high, h.rises⟩⟩

end Item

/-- The element before a position of an array. -/
def before? (ns : List Int) : Nat → Option Int
  | 0 => none
  | i + 1 => ns[i]?

/-- The elements of an array. -/
def elements (name : String) (low : Int) (high : Option Int) (ns : List Int) : List Item :=
  ns.mapIdx fun i n => ⟨elementName name i, n, low, high, before? ns i⟩

namespace ParamSet

/-- The range of the elements of an array. -/
def elementRange : ArrayKey → Int × Option Int
  | .packetRates => (0, none)
  | _ => (rssiMin, some rssiMax)

/-- The items of a set in the order in which they are checked. -/
def items (p : IntParams) : List Item :=
  (ArrayKey.all.flatMap fun k =>
      elements k.name (elementRange k).1 (elementRange k).2 (p.array k))
    ++ (ScalarKey.all.map fun k =>
      ⟨k.name, p.scalar k, (scalarRange k).1, some (scalarRange k).2, none⟩)
    ++ selectionTimes.map fun c => ⟨c.name, p.constant c, minutesMin, some minutesMax, none⟩

end ParamSet

/-! ## Reports -/

namespace Item

/-- The report on items: the first that does not fit. -/
def report (es : List Item) : Except Defect Unit :=
  match es.find? fun e => ¬ e.Fits with
  | some e => .error (.violation e.violation)
  | none => .ok ()

theorem report_append (es fs : List Item) :
    report (es ++ fs) = (report es >>= fun _ => report fs) := by
  simp only [report, List.find?_append]
  cases es.find? fun e => ¬ e.Fits <;> rfl

theorem report_cons (e : Item) (r : List Item) :
    report (e :: r) = (report [e] >>= fun _ => report r) := report_append [e] r

theorem report_singleton (e : Item) :
    report [e] = if e.Fits then .ok () else .error (.violation e.violation) := by
  by_cases h : e.Fits <;> simp [report, h]

theorem report_flatMap {β : Type} (f : β → List Item) (bs : List β) :
    report (bs.flatMap f) = bs.forM fun b => report (f b) := by
  induction bs with
  | nil => rfl
  | cons b r ih => rw [List.flatMap_cons, report_append, ih, Outcome.forM_cons_eq]

theorem report_map {β : Type} (f : β → Item) (bs : List β) :
    report (bs.map f) = bs.forM fun b => report [f b] := by
  rw [List.map_eq_flatMap, report_flatMap]

theorem report_eq_ok_iff {es : List Item} : report es = .ok () ↔ ∀ e ∈ es, e.Fits := by
  unfold report
  cases found : es.find? fun e => ¬ e.Fits with
  | none => simpa using found
  | some e =>
    have misfit : ¬ e.Fits := by simpa using List.find?_some found
    simpa using ⟨e, List.mem_of_find?_eq_some found, misfit⟩

theorem report_eq_error_iff {es : List Item} {d : Defect} :
    report es = .error d ↔ ∃ before e after, es = before ++ e :: after
      ∧ (∀ x ∈ before, x.Fits) ∧ ¬ e.Fits ∧ d = .violation e.violation := by
  have found : report es = .error d
      ↔ ∃ e, es.find? (fun e => ¬ e.Fits) = some e ∧ d = .violation e.violation := by
    unfold report
    cases es.find? fun e => ¬ e.Fits with
    | none => simp
    | some e => simp [eq_comm]
  rw [found]
  constructor
  · rintro ⟨e, first, rfl⟩
    obtain ⟨misfit, before, after, rfl, fit⟩ := List.find?_eq_some_iff_append.1 first
    exact ⟨before, e, after, rfl, by simpa using fit, by simpa using misfit, rfl⟩
  · rintro ⟨before, e, after, rfl, fit, misfit, rfl⟩
    exact ⟨e, List.find?_eq_some_iff_append.2
      ⟨by simpa using misfit, before, after, rfl, by simpa using fit⟩, rfl⟩

/-- Where the element before is not below the range, its bound is the only one below. -/
theorem fits_iff {e : Item} (ordered : ∀ b ∈ e.previous, e.low ≤ b) :
    e.Fits ↔ e.least ≤ e.value ∧ ∀ high ∈ e.high, e.value ≤ high := by
  obtain ⟨field, value, low, high, previous⟩ := e
  cases previous with
  | none => exact ⟨fun h => ⟨h.low_le, h.le_high⟩, fun h => ⟨h.1, h.2, by simp⟩⟩
  | some b =>
    have low_le : low ≤ b := ordered b rfl
    constructor
    · intro h
      exact ⟨h.rises b rfl, h.le_high⟩
    · rintro ⟨least_le, le_high⟩
      refine ⟨Int.le_trans low_le least_le, le_high, fun c hc => ?_⟩
      exact Option.some.inj hc ▸ least_le

end Item

open Item

/-! ## Checks of single items -/

theorem checkRange_eq_report {e : Item} {high : Int} (bounded : e.high = some high)
    (ordered : ∀ b ∈ e.previous, e.low ≤ b) :
    checkRange e.field e.value e.least high = report [e] := by
  have fits : e.Fits ↔ e.least ≤ e.value ∧ e.value ≤ high := by
    rw [fits_iff ordered, bounded]
    simp
  have named : (⟨e.field, .int e.value, .within (.int e.least) (.int high)⟩ : Violation)
      = e.violation := by
    simp [violation, bound, bounded]
  simp only [checkRange, Quantity.value_int, Value.isBelow_int, Value.isAbove_int, refuseIf_ok,
    named, report_singleton, decide_eq_true_eq]
  by_cases below : e.value < e.least
  · rw [if_pos below, if_neg fun h => Int.not_le.2 below (fits.1 h).1]
    rfl
  · have least_le : e.least ≤ e.value := Int.not_lt.1 below
    rw [if_neg below]
    by_cases above : high < e.value
    · rw [if_pos above, if_neg fun h => Int.not_le.2 above (fits.1 h).2]
      rfl
    · rw [if_neg above, if_pos (fits.2 ⟨least_le, Int.not_lt.1 above⟩)]
      rfl

theorem refuseIf_eq_report {e : Item} (unbounded : e.high = none)
    (ordered : ∀ b ∈ e.previous, e.low ≤ b) :
    refuseIf ((Value.int e.value).isBelow (.int e.least))
      ⟨e.field, .int e.value, .atLeast (.int e.least)⟩ = report [e] := by
  have fits : e.Fits ↔ e.least ≤ e.value := by
    rw [fits_iff ordered, unbounded]
    simp
  have named : (⟨e.field, .int e.value, .atLeast (.int e.least)⟩ : Violation) = e.violation := by
    simp [violation, bound, unbounded]
  rw [Value.isBelow_int, refuseIf_ok, named, report_singleton]
  by_cases below : e.value < e.least
  · rw [if_pos (decide_eq_true below), if_neg (mt fits.1 (Int.not_le.2 below))]
  · rw [if_neg (mt of_decide_eq_true below), if_pos (fits.2 (Int.not_lt.1 below))]

/-! ## Loops over arrays -/

/-- The elements of an array from a position on, where `previous` is the one before. -/
def elementsFrom (name : String) (low : Int) (high : Option Int) :
    (index : Nat) → (previous : Option Int) → List Int → List Item
  | _, _, [] => []
  | index, previous, n :: r =>
    ⟨elementName name index, n, low, high, previous⟩ :: elementsFrom name low high (index + 1) n r

theorem elementsFrom_eq_mapIdx (name : String) (low : Int) (high : Option Int) (index : Nat)
    (previous : Option Int) (ns : List Int) :
    elementsFrom name low high index previous ns = ns.mapIdx fun i n =>
      ⟨elementName name (index + i), n, low, high, (previous :: ns.map some)[i]?.join⟩ := by
  induction ns generalizing index previous with
  | nil => rfl
  | cons n r ih =>
    rw [elementsFrom, ih, List.mapIdx_cons]
    simp [Nat.add_comm, Nat.add_left_comm]

theorem elements_eq (name : String) (low : Int) (high : Option Int) (ns : List Int) :
    elements name low high ns = elementsFrom name low high 0 none ns := by
  rw [elementsFrom_eq_mapIdx, elements]
  refine congrArg (List.mapIdx · ns) (funext fun i => funext fun n => ?_)
  cases i with
  | zero => simp [before?]
  | succ i =>
    simp only [before?, List.getElem?_cons_succ, List.getElem?_map, Nat.zero_add]
    cases ns[i]? <;> rfl

/-- What a check of the next item and of those behind it reports together, if the check
    of those behind is only known for the case that the item fits. -/
theorem report_cons_of_fits {e : Item} {r : List Item} {check : Except Defect Unit}
    (behind : e.Fits → check = report r) : (report [e] >>= fun _ => check) = report (e :: r) := by
  rw [report_cons e r, report_singleton]
  by_cases h : e.Fits
  · rw [behind h]
  · rw [if_neg h]
    rfl

/-- The loop over thresholds reports the first element that does not fit. -/
theorem checkRssiFrom_eq (name : String) (index : Nat) (previous : Option Int) (ns : List Int)
    (ordered : ∀ b ∈ previous, rssiMin ≤ b) :
    checkRssiFrom name index (previous.getD rssiMin) ns
      = report (elementsFrom name rssiMin (some rssiMax) index previous ns) := by
  induction ns generalizing index previous with
  | nil => rfl
  | cons n r ih =>
    have first := checkRange_eq_report
      (e := ⟨elementName name index, n, rssiMin, some rssiMax, previous⟩) rfl ordered
    rw [checkRssiFrom, elementsFrom]
    exact (congrArg (· >>= _) first).trans (report_cons_of_fits fun fits =>
      ih (index + 1) (some n) fun b hb => Option.some.inj hb ▸ fits.low_le)

/-- The loop over rates reports the first element that does not fit. -/
theorem checkRisingFrom_eq (name : String) (index : Nat) (previous : Option Int) (ns : List Int)
    (ordered : ∀ b ∈ previous, 0 ≤ b) :
    checkRisingFrom name index (previous.getD 0) ns
      = report (elementsFrom name 0 none index previous ns) := by
  induction ns generalizing index previous with
  | nil => rfl
  | cons n r ih =>
    have first := refuseIf_eq_report
      (e := ⟨elementName name index, n, 0, none, previous⟩) rfl ordered
    rw [checkRisingFrom, elementsFrom]
    exact (congrArg (· >>= _) first).trans (report_cons_of_fits fun fits =>
      ih (index + 1) (some n) fun b hb => Option.some.inj hb ▸ fits.low_le)

namespace ParamSet

theorem checkArray_eq_report (p : IntParams) (k : ArrayKey) : p.checkArray k
    = report (elements k.name (elementRange k).1 (elementRange k).2 (p.array k)) := by
  rw [checkArray_int, elements_eq]
  cases k with
  | packetRates => exact checkRisingFrom_eq _ 0 none _ (by simp)
  | _ => exact checkRssiFrom_eq _ 0 none _ (by simp)

theorem checkScalar_eq_report (p : IntParams) (k : ScalarKey) : p.checkScalar k
    = report [⟨k.name, p.scalar k, (scalarRange k).1, some (scalarRange k).2, none⟩] :=
  checkRange_eq_report (e := ⟨k.name, p.scalar k, (scalarRange k).1, some (scalarRange k).2, none⟩)
    rfl (by simp)

theorem checkMinutes_eq_report (p : IntParams) (c : Constant) :
    p.checkMinutes c = report [⟨c.name, p.constant c, minutesMin, some minutesMax, none⟩] :=
  checkRange_eq_report (e := ⟨c.name, p.constant c, minutesMin, some minutesMax, none⟩)
    rfl (by simp)

/-- **A check reports the first item that does not fit.** -/
theorem check_eq (p : IntParams) : p.check = report p.items := by
  rw [items, report_append, report_append, report_flatMap, report_map, report_map, check]
  simp only [← checkArray_eq_report, ← checkScalar_eq_report, ← checkMinutes_eq_report]
  cases ArrayKey.all.forM p.checkArray <;> rfl

/-- The domain, said item by item. -/
theorem inDomain_iff_forall_fits {p : IntParams} : p.InDomain ↔ ∀ e ∈ p.items, e.Fits := by
  rw [← check_eq_ok_iff, check_eq, report_eq_ok_iff]

/-- **The outcomes of a check.** The sets in the domain pass. Of any other set it reports
    the first item, in the order of the checks, that is out of its range or below the
    element before it. The test says whether there is such an item. -/
theorem check_outcome (p : IntParams) :
    (p.check = .ok () ↔ p.InDomain)
      ∧ (∀ d, p.check = .error d ↔ ∃ before e after, p.items = before ++ e :: after
        ∧ (∀ x ∈ before, x.Fits) ∧ ¬ e.Fits ∧ d = .violation e.violation)
      ∧ (p.isValid = .ok true ↔ p.InDomain) ∧ (p.isValid = .ok false ↔ ¬ p.InDomain) := by
  refine ⟨p.check_eq_ok_iff, fun d => ?_, p.isValid_iff, ?_⟩
  · rw [check_eq, report_eq_error_iff]
  · rw [← check_eq_ok_iff, isValid]
    cases failed : p.check with
    | ok _ => simp
    | error d =>
      obtain ⟨v, rfl⟩ := isViolation_of_check failed
      simp

-- the element is in its range, but below the one before it; the horizon comes later
example : check { builtIn with tunables :=
    { builtIn.tunables with rssi5 := [-80, -70, -75], horizon := 61 } }
    = .error (.violation ⟨"rssi5[2]", .int (-75), .within (.int (-70)) (.int (-1))⟩) := rfl

end ParamSet

end RoamTuning
