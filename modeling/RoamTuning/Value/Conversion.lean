import RoamTuning.Outcome
import RoamTuning.Value

/-!
# Converting values to integers

How a value of any kind becomes an integer, how it becomes a sequence of values,
and what it has at a position. Numbers lose their fraction, texts are read in
the lenient form, and a truth value counts as zero or one.

Results:

* `toInt_int`: an integer converts to itself.
* `toInt_eq_error_infinite_iff`: a conversion overflows exactly at an infinity.
-/

namespace RoamTuning.Value

open RoamTuning

/-- Why a value cannot be used in some way. -/
inductive Misfit where
  /-- The text is no numeral, or the integer has none. -/
  | numeral (problem : Numeral.Problem)
  /-- The number is not a number. -/
  | notANumber
  /-- The number is infinite. -/
  | infinite
  /-- The kind of value has no integer. -/
  | notConvertible (kind : String)
  /-- The kind of value has no items. -/
  | notIterable (kind : String)
  /-- The kind of value has no length. -/
  | notSized (kind : String)
  /-- The kind of value has nothing at any position. -/
  | notIndexable (kind : String)
  /-- A value of that kind has too few items. -/
  | outOfRange (kind : String)
  /-- The object has no member for the position. -/
  | noMember (index : Nat)
  /-- The object has no member of the name. -/
  | noName (name : String)
  /-- A value of that kind has items at positions, and a name is none. -/
  | notPosition (kind : String)
  /-- The kind of value holds nothing that could be looked for. -/
  | notContainer (kind : String)
  /-- The kind of value takes nothing up under a name. -/
  | notWritable (kind : String)
  /-- A name in a row of names is no pair of characters. -/
  | unpaired (index size : Nat)
  /-- The kind of value is no key of a table. -/
  | notHashable (kind : String)
  /-- The kind of value is nothing that can be called. -/
  | notCallable (kind : String)
  /-- An object of some kind has nothing of a name. -/
  | lacking (owner name : String)
  /-- The two kinds of values have no order. -/
  | incomparable (sign left right : String)
deriving DecidableEq, Repr

instance : Numeral.Limited Misfit := ⟨.numeral .unwritable⟩

/-- What is said of a value that does not fit. -/
def Misfit.message : Misfit → String
  | .numeral p => p.message
  | .notANumber => "cannot convert float NaN to integer"
  | .infinite => "cannot convert float infinity to integer"
  | .notConvertible kind =>
    "int() argument must be a string, a bytes-like object or a real number, not '" ++ kind ++ "'"
  | .notIterable kind => "'" ++ kind ++ "' object is not iterable"
  | .notSized kind => "object of type '" ++ kind ++ "' has no len()"
  | .notIndexable kind => "'" ++ kind ++ "' object is not subscriptable"
  | .outOfRange kind => kind ++ " index out of range"
  | .noMember index => Numeral.text index
  | .noName name => Text.quoted name
  | .notPosition kind =>
    if kind = "str" then "string indices must be integers, not 'str'"
    else kind ++ " indices must be integers or slices, not str"
  | .notContainer kind => "argument of type '" ++ kind ++ "' is not iterable"
  | .notWritable kind => "'" ++ kind ++ "' object does not support item assignment"
  | .unpaired index size =>
    "dictionary update sequence element #" ++ Numeral.text index ++ " has length "
      ++ Numeral.text size ++ "; 2 is required"
  | .notHashable kind => "unhashable type: '" ++ kind ++ "'"
  | .notCallable kind => "'" ++ kind ++ "' object is not callable"
  | .lacking owner name => "'" ++ owner ++ "' object has no attribute '" ++ name ++ "'"
  | .incomparable sign left right =>
    "'" ++ sign ++ "' not supported between instances of '" ++ left ++ "' and '" ++ right ++ "'"

/-- The integer that a value converts to. -/
def toInt : Value → Except Misfit Int
  | int n => .ok n
  | bool b => .ok (if b then 1 else 0)
  | float x =>
    match x with
    | .nan => .error .notANumber
    | .infinite _ => .error .infinite
    | .finite s m e => .ok (((Binary64.finite s m e).toInt?).getD 0)
  | text s => (Numeral.readAny s).mapError .numeral
  | v => .error (.notConvertible v.kindName)

/-- The items that a value consists of: those of a list or a tuple, the
    characters of a text, the names of the members of an object. -/
def items : Value → Except Misfit (List Value)
  | list vs => .ok vs
  | tuple vs => .ok vs
  | text s => .ok (s.toList.map fun c => .text (String.ofList [c]))
  | object ms => .ok (ms.map fun m => .text m.1)
  | v => .error (.notIterable v.kindName)

/-- How many items a value has. -/
def size (v : Value) : Except Misfit Nat :=
  match v.items with
  | .ok vs => .ok vs.length
  | .error _ => .error (.notSized v.kindName)

/-- An item of a sequence of some kind. -/
def itemOf (kind : String) (vs : List Value) (index : Nat) : Except Misfit Value :=
  match vs[index]? with
  | some v => .ok v
  | none => .error (.outOfRange kind)

/-- What a value has at a position. The members of an object have names, which
    no position is. -/
def item (v : Value) (index : Nat) : Except Misfit Value :=
  match v with
  | list vs => itemOf "list" vs index
  | tuple vs => itemOf "tuple" vs index
  | text s => itemOf "string" (s.toList.map fun c => .text (String.ofList [c])) index
  | object _ => .error (.noMember index)
  | v => .error (.notIndexable v.kindName)

/-- The integers of all the items, or the misfit of the first that has none. -/
def toInts : List Value → Except Misfit (List Int)
  | [] => .ok []
  | v :: r => do
    let n ← v.toInt
    let ns ← toInts r
    return n :: ns

@[simp] theorem toInt_int (n : Int) : toInt (.int n) = .ok n := rfl

theorem toInt_eq_error_infinite_iff (v : Value) :
    v.toInt = .error .infinite ↔ ∃ negative, v = .float (.infinite negative) := by
  cases v with
  | float x => cases x <;> simp [toInt]
  | text s => cases h : Numeral.readAny s <;> simp [toInt, h]
  | _ => simp [toInt]

end RoamTuning.Value
