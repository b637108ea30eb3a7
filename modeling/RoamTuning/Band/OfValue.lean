import RoamTuning.Band
import RoamTuning.Value.Order

/-!
# Bands of frequencies of any kind

A frequency that is given by hand may be a value of any kind. It belongs to a
band if it lies between the ends of the band, whatever number it is, and a value
that is no number cannot be looked up.

Results:

* `classifyValue_int`: an integer belongs to the band that it belongs to.
* `forValue_int`: the same for the band whose thresholds apply.
-/

namespace RoamTuning.Band

open Value (Misfit)

/-- Whether a value lies between two frequencies, which may be reached. -/
def liesWithin (low high : Int) (v : Value) : Except Misfit Bool := do
  if ← (Value.int low).isAtMost v then v.isAtMost (.int high) else return false

/-- Whether a value lies in the 2.4 GHz band. -/
def is24GHzValue (v : Value) : Except Misfit Bool := liesWithin 2412 2484 v

/-- Whether a value lies in the 5 GHz band. -/
def is5GHzValue (v : Value) : Except Misfit Bool := liesWithin 5160 5885 v

/-- Whether a value lies in the 6 GHz band. -/
def is6GHzValue (v : Value) : Except Misfit Bool :=
  if (Value.int 5935).equals v then .ok true else liesWithin 5955 7115 v

/-- The band that a value belongs to. -/
def classifyValue (v : Value) : Except Misfit (Option Band) := do
  if ← is24GHzValue v then return some ghz24
  if ← is5GHzValue v then return some ghz5
  if ← is6GHzValue v then return some ghz6
  return none

/-- The band whose thresholds apply to a value. -/
def forValue (v : Value) : Logged Misfit Band := do
  match ← Logged.ofExcept (classifyValue v) with
  | some b => return b
  | none => forUnclassified v.tryWritten

theorem liesWithin_int (low high n : Int) :
    liesWithin low high (.int n) = .ok (decide (low ≤ n) && decide (n ≤ high)) := by
  by_cases h : low ≤ n <;>
    simp [liesWithin, h, bind, Except.bind, pure, Except.pure]

theorem is24GHzValue_int (n : Int) : is24GHzValue (.int n) = .ok (is24GHz n) :=
  liesWithin_int 2412 2484 n

theorem is5GHzValue_int (n : Int) : is5GHzValue (.int n) = .ok (is5GHz n) :=
  liesWithin_int 5160 5885 n

theorem is6GHzValue_int (n : Int) : is6GHzValue (.int n) = .ok (is6GHz n) := by
  by_cases h : n = 5935
  · simp [is6GHzValue, is6GHz, h, Value.equals_int]
  · simp [is6GHzValue, is6GHz, h, Value.equals_int, Ne.symm h, liesWithin_int]

theorem classifyValue_int (n : Int) : classifyValue (.int n) = .ok (classify n) := by
  simp only [classifyValue, is24GHzValue_int, is5GHzValue_int, is6GHzValue_int, classify]
  cases is24GHz n <;> cases is5GHz n <;> cases is6GHz n <;> rfl

theorem forValue_int (n : Int) : forValue (.int n) = forFrequency n := by
  simp only [forValue, forFrequency, classifyValue_int, Value.tryWritten_int]
  cases classify n <;> rfl

end RoamTuning.Band
