import RoamTuning.Value.Conversion
import RoamTuning.Value.Equality

/-!
# Order of values

Numbers and truth values are ordered by their amounts, which are compared
exactly, texts by their characters, lists by the first items that are not equal
and otherwise by their lengths. Values of other kinds, and of two kinds, have no
order, and comparing them is a misfit that names the sign of the comparison and
the two kinds.

Results:

* `isBelow_int`, `isAbove_int`, `isAtMost_int`: integers have their own order.
-/

namespace RoamTuning.Value

open RoamTuning

/-- How two values are compared. -/
inductive Comparison where
  | below
  | above
  | atMost
deriving DecidableEq, Repr

namespace Comparison

/-- The sign of a comparison. -/
def sign : Comparison → String
  | below => "<"
  | above => ">"
  | atMost => "<="

/-- Whether a comparison of numbers holds. -/
def holds : Comparison → Magnitude → Magnitude → Bool
  | below, x, y => x.isBelow y
  | above, x, y => y.isBelow x
  | atMost, x, y => x.isBelow y || x.equals y

/-- Whether a comparison of texts holds. -/
def holdsOfTexts : Comparison → String → String → Bool
  | below, s, t => s < t
  | above, s, t => t < s
  | atMost, s, t => !decide (t < s)

/-- Whether a comparison of lengths holds. -/
def holdsOfLengths : Comparison → Nat → Nat → Bool
  | below, m, n => m < n
  | above, m, n => n < m
  | atMost, m, n => m ≤ n

end Comparison

/-- Compares two values that have no items. -/
def compareSingle (c : Comparison) (v w : Value) : Except Misfit Bool :=
  match v.magnitude?, w.magnitude? with
  | some x, some y => .ok (c.holds x y)
  | _, _ => .error (.incomparable c.sign v.kindName w.kindName)

mutual

/-- Compares two values. -/
def compare (c : Comparison) : Value → Value → Except Misfit Bool
  | text s, text t => .ok (c.holdsOfTexts s t)
  | list vs, list ws => compareItems c vs.length ws.length vs ws
  | tuple vs, tuple ws => compareItems c vs.length ws.length vs ws
  | v, w => compareSingle c v w

/-- Compares the items of two lists, whose lengths decide where no items are
    unequal. -/
def compareItems (c : Comparison) (length length' : Nat) :
    List Value → List Value → Except Misfit Bool
  | v :: vs, w :: ws =>
    if v.equals w then compareItems c length length' vs ws else compare c v w
  | _, _ => .ok (c.holdsOfLengths length length')

end

/-- Whether a value is less than another. -/
def isBelow : Value → Value → Except Misfit Bool := compare .below

/-- Whether a value is greater than another. -/
def isAbove : Value → Value → Except Misfit Bool := compare .above

/-- Whether a value is not greater than another. -/
def isAtMost : Value → Value → Except Misfit Bool := compare .atMost

@[simp] theorem isBelow_int (m n : Int) : (int m).isBelow (int n) = .ok (decide (m < n)) := by
  simp [isBelow, compare, compareSingle, magnitude?, Comparison.holds, Magnitude.isBelow]

@[simp] theorem isAbove_int (m n : Int) : (int m).isAbove (int n) = .ok (decide (n < m)) := by
  simp [isAbove, compare, compareSingle, magnitude?, Comparison.holds, Magnitude.isBelow]

@[simp] theorem isAtMost_int (m n : Int) : (int m).isAtMost (int n) = .ok (decide (m ≤ n)) := by
  simp only [isAtMost, compare, compareSingle, magnitude?, Comparison.holds, Magnitude.isBelow,
    Magnitude.equals, Except.ok.injEq]
  rw [← Bool.decide_or]
  exact decide_eq_decide.2 (by omega)

end RoamTuning.Value
