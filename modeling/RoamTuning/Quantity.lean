import RoamTuning.Value.Order

/-!
# Quantities and rows of them

What a parameter holds is a quantity, or a row of quantities. As a rule these
are an integer and a list of integers; in a set that is given by hand either may
be a value of any kind. The integers are among the quantities and the lists of
them among the rows, and whatever a parameter holds is a value, by which it is
compared, written and shown.

Results:

* `ofInt_int`, `value_int`: for integers both ways are the plain ones.
* `Row.items_list`, `Row.size_list`: a list of integers is a row of its items.
* `Row.items_ofIntegers`, `Row.value_ofIntegers`: the same where rows are values.
-/

namespace RoamTuning

/-- The kinds of quantities: they have the integers among them, and each of them
    is a value. -/
class Quantity (α : Type) where
  ofInt : Int → α
  value : α → Value
  value_ofInt (n : Int) : value (ofInt n) = .int n

instance : Quantity Int where
  ofInt n := n
  value := .int
  value_ofInt _ := rfl

instance : Quantity Value where
  ofInt := .int
  value v := v
  value_ofInt _ := rfl

/-- The kinds of rows of quantities: they have the lists of integers among them,
    and each of them is a value. A row need not have items, a length, or
    something at a position. -/
class Row (ρ : Type) (α : outParam Type) where
  ofIntegers : List Int → ρ
  value : ρ → Value
  items : ρ → Except Value.Misfit (List α)
  size : ρ → Except Value.Misfit Nat
  item : ρ → (index : Nat) → Except Value.Misfit α

instance : Row (List Int) Int where
  ofIntegers ns := ns
  value ns := .tuple (ns.map .int)
  items := .ok
  size ns := .ok ns.length
  item ns index :=
    match ns[index]? with
    | some n => .ok n
    | none => .error (.outOfRange "tuple")

instance : Row Value Value where
  ofIntegers ns := .tuple (ns.map .int)
  value v := v
  items := Value.items
  size := Value.size
  item := Value.item

namespace Quantity

@[simp] theorem ofInt_int (n : Int) : (ofInt n : Int) = n := rfl

@[simp] theorem value_int (n : Int) : value n = .int n := rfl

end Quantity

namespace Row

/-- The items of a row; none of a row that has no items. -/
def toList {α ρ : Type} [Row ρ α] (r : ρ) : List α :=
  match items r with
  | .ok xs => xs
  | .error _ => []

@[simp] theorem ofIntegers_list (ns : List Int) : (ofIntegers ns : List Int) = ns := rfl

@[simp] theorem value_list (ns : List Int) : value ns = .tuple (ns.map .int) := rfl

@[simp] theorem items_list (ns : List Int) : items ns = .ok ns := rfl

@[simp] theorem size_list (ns : List Int) : size ns = .ok ns.length := rfl

@[simp] theorem toList_list (ns : List Int) : toList ns = ns := rfl

@[simp] theorem items_ofIntegers (ns : List Int) :
    items (ofIntegers ns : Value) = .ok (ns.map Quantity.ofInt) := rfl

@[simp] theorem value_ofIntegers (ns : List Int) :
    value (ofIntegers ns : Value) = .tuple (ns.map .int) := rfl

end Row

end RoamTuning
