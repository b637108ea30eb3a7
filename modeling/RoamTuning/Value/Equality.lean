import RoamTuning.Value

/-!
# Equality of values

Two values are equal as far as numbers go: a truth value counts as zero or one,
an integer equals the float of the same amount, and the members of an object
may come in any order. What is no number does not equal itself, yet a value is
always the same as itself. Identity is finer and decidable as well.

Results:

* `same_int`, `equals_int`: integers are the same, and equal, exactly when they
  are identical.
-/

namespace RoamTuning

open Text

/-- A number as comparisons see it: a fraction, an infinity, or no number. -/
inductive Magnitude where
  | finite (num : Int) (den : Nat)
  | infinite (negative : Bool)
  | nan
deriving DecidableEq, Repr

namespace Magnitude

/-- A signed amount. -/
def signed (negative : Bool) (n : Nat) : Int := if negative then -(n : Int) else n

/-- The magnitude of a floating-point number. -/
def ofFloat : Binary64 → Magnitude
  | .finite negative m e =>
    if 0 ≤ e then .finite (signed negative (m * Nat.pow 2 e.toNat)) 1
    else .finite (signed negative m) (Nat.pow 2 (-e).toNat)
  | .infinite negative => .infinite negative
  | .nan => .nan

/-- Whether a magnitude is less than another; with no number nothing is. -/
def isBelow : Magnitude → Magnitude → Bool
  | finite a b, finite c d => a * d < c * b
  | infinite true, finite _ _ => true
  | infinite true, infinite false => true
  | finite _ _, infinite false => true
  | _, _ => false

/-- Whether two magnitudes are equal; what is no number equals nothing. -/
def equals : Magnitude → Magnitude → Bool
  | finite a b, finite c d => decide (a * d = c * b)
  | infinite a, infinite b => a == b
  | _, _ => false

/-- Whether two magnitudes are the same; what is no number is the same as
    itself. -/
def same : Magnitude → Magnitude → Bool
  | nan, nan => true
  | x, y => x.equals y

end Magnitude

namespace Value

/-- The magnitude of a value, if it is a number or a truth value. -/
def magnitude? : Value → Option Magnitude
  | int n => some (.finite n 1)
  | bool b => some (.finite (if b then 1 else 0) 1)
  | float x => some (.ofFloat x)
  | _ => none

mutual

/-- Whether two values agree, where numbers are compared as said. -/
def agree (numbers : Magnitude → Magnitude → Bool) : Value → Value → Bool
  | null, null => true
  | text s, text t => s == t
  | list xs, list ys => agreeItems numbers xs ys
  | tuple xs, tuple ys => agreeItems numbers xs ys
  | object ms, object ns => ms.length == ns.length && agreeMembers numbers ms ns
  | v, w =>
    match v.magnitude?, w.magnitude? with
    | some x, some y => numbers x y
    | _, _ => false

/-- Whether two lists have the same items. -/
def agreeItems (numbers : Magnitude → Magnitude → Bool) : List Value → List Value → Bool
  | [], [] => true
  | v :: vs, w :: ws => v.agree numbers w && agreeItems numbers vs ws
  | _, _ => false

/-- Whether each of some members is among others. -/
def agreeMembers (numbers : Magnitude → Magnitude → Bool) :
    List (String × Value) → List (String × Value) → Bool
  | [], _ => true
  | (name, v) :: r, ns =>
    (match ns.lookup name with
      | some w => v.agree numbers w
      | none => false) && agreeMembers numbers r ns

end

/-- Whether two values are equal. -/
def equals : Value → Value → Bool := agree Magnitude.equals

/-- Whether two values are the same one in a comparison. -/
def same : Value → Value → Bool := agree Magnitude.same

@[simp] theorem same_int (m n : Int) : (int m).same (int n) = decide (m = n) := by
  simp [same, agree, magnitude?, Magnitude.same, Magnitude.equals]

@[simp] theorem equals_int (m n : Int) : (int m).equals (int n) = decide (m = n) := by
  simp [equals, agree, magnitude?, Magnitude.equals]

/-! ## Identity -/

mutual

/-- Decides whether two values are identical. -/
def decideEq : (v w : Value) → Decidable (v = w)
  | null, w =>
    match w with
    | null => .isTrue rfl
    | bool _ | int _ | float _ | text _ | list _ | tuple _ | object _ => .isFalse (by simp)
  | bool b, w =>
    match w with
    | bool c => if h : b = c then .isTrue (by rw [h]) else .isFalse (by simp [h])
    | null | int _ | float _ | text _ | list _ | tuple _ | object _ => .isFalse (by simp)
  | int m, w =>
    match w with
    | int n => if h : m = n then .isTrue (by rw [h]) else .isFalse (by simp [h])
    | null | bool _ | float _ | text _ | list _ | tuple _ | object _ => .isFalse (by simp)
  | float x, w =>
    match w with
    | float y => if h : x = y then .isTrue (by rw [h]) else .isFalse (by simp [h])
    | null | bool _ | int _ | text _ | list _ | tuple _ | object _ => .isFalse (by simp)
  | text s, w =>
    match w with
    | text t => if h : s = t then .isTrue (by rw [h]) else .isFalse (by simp [h])
    | null | bool _ | int _ | float _ | list _ | tuple _ | object _ => .isFalse (by simp)
  | list xs, w =>
    match w with
    | list ys =>
      match decideItems xs ys with
      | .isTrue h => .isTrue (by rw [h])
      | .isFalse h => .isFalse (by simp [h])
    | null | bool _ | int _ | float _ | text _ | tuple _ | object _ => .isFalse (by simp)
  | tuple xs, w =>
    match w with
    | tuple ys =>
      match decideItems xs ys with
      | .isTrue h => .isTrue (by rw [h])
      | .isFalse h => .isFalse (by simp [h])
    | null | bool _ | int _ | float _ | text _ | list _ | object _ => .isFalse (by simp)
  | object ms, w =>
    match w with
    | object ns =>
      match decideMembers ms ns with
      | .isTrue h => .isTrue (by rw [h])
      | .isFalse h => .isFalse (by simp [h])
    | null | bool _ | int _ | float _ | text _ | list _ | tuple _ => .isFalse (by simp)

/-- Decides whether two lists of values are identical. -/
def decideItems : (vs ws : List Value) → Decidable (vs = ws)
  | [], [] => .isTrue rfl
  | [], _ :: _ => .isFalse (by simp)
  | _ :: _, [] => .isFalse (by simp)
  | v :: vs, w :: ws =>
    match decideEq v w, decideItems vs ws with
    | .isTrue h, .isTrue hs => .isTrue (by rw [h, hs])
    | .isFalse h, _ => .isFalse (by simp [h])
    | _, .isFalse h => .isFalse (by simp [h])

/-- Decides whether two lists of members are identical. -/
def decideMembers : (ms ns : List (String × Value)) → Decidable (ms = ns)
  | [], [] => .isTrue rfl
  | [], _ :: _ => .isFalse (by simp)
  | _ :: _, [] => .isFalse (by simp)
  | (m, v) :: ms, (n, w) :: ns =>
    if hm : m = n then
      match decideEq v w, decideMembers ms ns with
      | .isTrue h, .isTrue hs => .isTrue (by rw [hm, h, hs])
      | .isFalse h, _ => .isFalse (by simp [h])
      | _, .isFalse h => .isFalse (by simp [h])
    else .isFalse (by simp [hm])

end

instance : DecidableEq Value := decideEq

end Value

end RoamTuning
