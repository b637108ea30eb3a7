import RoamTuning.Binary64
import RoamTuning.Store
import RoamTuning.Value.Conversion
import RoamTuning.Weights

/-!
# Weights of frequencies of any kind

A frequency that is given by hand may be a value of any kind. It has the weight
of the frequency that it equals, if it equals one; lists and objects cannot be
looked up at all.

Results:

* `weightOf_int`, `scoreOf_int`: an integer has the weight and the score that it
  has as a frequency.
-/

namespace RoamTuning

open Value (Misfit)

namespace WeightTable

/-- The frequency that a value equals, if it equals one. -/
def frequencyOf (v : Value) : Except Misfit (Option Int) :=
  match v with
  | .int n => .ok (some n)
  | .bool b => .ok (some (if b then 1 else 0))
  | .float x => .ok x.integral?
  | .list _ | .object _ => .error (.notHashable v.kindName)
  | _ => .ok none

/-- The stored value of the frequency that a value equals. -/
def weightOf (t : WeightTable) (v : Value) : Except Misfit (Option Value) :=
  (frequencyOf v).map fun frequency => frequency.bind t.get?

/-- The score of the frequency that a value equals. -/
def scoreOf (t : WeightTable) (v : Value) : Logged Misfit Int := do
  match ← Logged.ofExcept (t.weightOf v) with
  | none => return neutralScore
  | some stored => scoreOfStored v.tryWritten stored

theorem weightOf_int (t : WeightTable) (n : Int) : t.weightOf (.int n) = .ok (t.get? n) := rfl

theorem scoreOf_int (t : WeightTable) (n : Int) : t.scoreOf (.int n) = t.score n := by
  simp only [scoreOf, score, weightOf_int, Value.tryWritten_int]
  cases h : t.get? n with
  | none => rfl
  | some v =>
    simp only [Logged.ofExcept, Logged.bind_eq, Logged.andThen, List.nil_append]

end WeightTable

/-- The score of a frequency of any kind, which is neutral on a platform without
    support. -/
def Store.scoreOf {α ρ : Type} (s : Store α ρ) (frequency : Value) : Logged Misfit Int :=
  if s.weightsSupported then s.weights.scoreOf frequency else return WeightTable.neutralScore

theorem Store.scoreOf_int {α ρ : Type} (s : Store α ρ) (n : Int) :
    s.scoreOf (.int n) = s.score n := by
  simp only [scoreOf, score, WeightTable.scoreOf_int]

end RoamTuning
