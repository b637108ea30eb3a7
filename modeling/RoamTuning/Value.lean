import RoamTuning.Binary64.Decimal
import RoamTuning.Text.Pieces

/-!
# Values of any kind

Settings, platform defaults, stored weights and documents carry values whose
kind is known only when they are read. `Value.shown` is the form in which a
value appears in a message: truth values and null as words with a capital,
texts quoted, lists and objects with their parts between brackets and braces.
`Value.tryShown` and `Value.tryWritten` fail where an integer at any depth has
too many digits to be written.

Results:

* `shown_int`, `shown_text`: numbers are shown in decimal and texts quoted.
* `written_int`, `tryWritten_int`: by itself a number is written in decimal, too.
* `levels_int`: a number has one level.
* `intTuple?_ints`: the integers of a tuple are found again.
-/

namespace RoamTuning

open Text

/-- A value of any kind. A tuple is a list of fixed length, which no document
    writes. The members of an object keep their order. -/
inductive Value where
  | null
  | bool (b : Bool)
  | int (n : Int)
  | float (x : Binary64)
  | text (s : String)
  | list (items : List Value)
  | tuple (items : List Value)
  | object (members : List (String × Value))
deriving Repr, Inhabited

namespace Value

/-- The kind of a value, as messages name it. -/
def kindName : Value → String
  | null => "NoneType"
  | bool _ => "bool"
  | int _ => "int"
  | float _ => "float"
  | text _ => "str"
  | list _ => "list"
  | tuple _ => "tuple"
  | object _ => "dict"

/-- A truth value in a message. -/
def showBool (b : Bool) : String := if b then "True" else "False"

/-- A tuple of texts in a message; a single one keeps its comma. -/
def showTuple (ts : List String) : String :=
  match ts with
  | [t] => "(" ++ t ++ ",)"
  | _ => "(" ++ joined ", " ts ++ ")"

mutual

/-- A value in a message. Its integers have at most `Numeral.digitLimit` digits; where they
    may have more, there is `tryShown`. -/
def shown : Value → String
  | null => "None"
  | bool b => showBool b
  | int n => Numeral.text n
  | float x => x.text
  | text s => quoted s
  | list items => "[" ++ joined ", " (showItems items) ++ "]"
  | tuple items => showTuple (showItems items)
  | object members => "\x7b" ++ joined ", " (showMembers members) ++ "\x7d"

/-- The items of a list in a message. -/
def showItems : List Value → List String
  | [] => []
  | v :: r => v.shown :: showItems r

/-- The members of an object in a message. -/
def showMembers : List (String × Value) → List String
  | [] => []
  | m :: r => (quoted m.1 ++ ": " ++ m.2.shown) :: showMembers r

end

/-- A value as it is written by itself: a text without quotes, another value as
    in a message. -/
def written : Value → String
  | text s => s
  | v => v.shown

mutual

/-- Whether all integers in a value have few enough digits to be written. -/
def isShort : Value → Bool
  | int n => decide (Numeral.IsShort n)
  | list items => itemsShort items
  | tuple items => itemsShort items
  | object members => membersShort members
  | _ => true

/-- Whether all integers in some items do. -/
def itemsShort : List Value → Bool
  | [] => true
  | v :: r => v.isShort && itemsShort r

/-- Whether all integers in some members do. -/
def membersShort : List (String × Value) → Bool
  | [] => true
  | m :: r => m.2.isShort && membersShort r

end

/-- A value in a message, unless it has an integer of too many digits. -/
def tryShown {ε : Type} [Numeral.Limited ε] (v : Value) : Except ε String :=
  Numeral.writeIf v.isShort v.shown

/-- A value as it is written by itself, unless it has an integer of too many
    digits. -/
def tryWritten {ε : Type} [Numeral.Limited ε] (v : Value) : Except ε String :=
  Numeral.writeIf v.isShort v.written

/-- Integers as a tuple in a message, of at most `Numeral.digitLimit` digits each. -/
def showIntegers (ns : List Int) : String := showTuple (ns.map Numeral.text)

/-- Whether a value counts as set: neither null, nor false, zero or empty. -/
def isSet : Value → Bool
  | null => false
  | bool b => b
  | int n => n != 0
  | float (.finite _ m _) => m != 0
  | float _ => true
  | text s => !s.isEmpty
  | list items => !items.isEmpty
  | tuple items => !items.isEmpty
  | object members => !members.isEmpty

/-- The integer that a value is. -/
def int? : Value → Option Int
  | int n => some n
  | _ => none

/-- The integers of a tuple that holds nothing else. -/
def intTuple? : Value → Option (List Int)
  | tuple items => items.mapM int?
  | _ => none

/-- A list as a tuple; any other value as it is. -/
def fixed : Value → Value
  | list items => tuple items
  | v => v

mutual

/-- A value with its numbers changed at every depth. -/
def mapFloats (f : Binary64 → Value) : Value → Value
  | float x => f x
  | list items => list (mapItems f items)
  | tuple items => tuple (mapItems f items)
  | object members => object (mapMembers f members)
  | v => v

/-- Items with their numbers changed. -/
def mapItems (f : Binary64 → Value) : List Value → List Value
  | [] => []
  | v :: r => v.mapFloats f :: mapItems f r

/-- Members with their numbers changed. -/
def mapMembers (f : Binary64 → Value) : List (String × Value) → List (String × Value)
  | [] => []
  | m :: r => (m.1, m.2.mapFloats f) :: mapMembers f r

end

mutual

/-- How many levels a value has: one, and one more for each list or object that
    its innermost part stands in. -/
def levels : Value → Nat
  | list items => itemLevels items + 1
  | tuple items => itemLevels items + 1
  | object members => memberLevels members + 1
  | _ => 1

/-- The most levels that one of some items has. -/
def itemLevels : List Value → Nat
  | [] => 0
  | v :: r => max v.levels (itemLevels r)

/-- The most levels that one of some members has. -/
def memberLevels : List (String × Value) → Nat
  | [] => 0
  | m :: r => max m.2.levels (memberLevels r)

end

/-- A value as a document can write it: numbers that are not finite are null. -/
def writable : Value → Value :=
  mapFloats fun x =>
    match x with
    | .finite .. => .float x
    | _ => .null

@[simp] theorem shown_int (n : Int) : (int n).shown = Numeral.text n := by
  simp [shown]

@[simp] theorem shown_text (s : String) : (text s).shown = quoted s := by
  simp [shown]

@[simp] theorem levels_int (n : Int) : (int n).levels = 1 := by
  simp [levels]

@[simp] theorem written_int (n : Int) : (int n).written = Numeral.text n := by
  simp [written]

@[simp] theorem tryWritten_int {ε : Type} [Numeral.Limited ε] (n : Int) :
    ((int n).tryWritten : Except ε String) = Numeral.tryText n := by
  simp [tryWritten, isShort, Numeral.tryText, Numeral.writeIf]

@[simp] theorem intTuple?_ints (ns : List Int) : (tuple (ns.map int)).intTuple? = some ns := by
  induction ns with
  | nil => rfl
  | cons n r ih =>
    simp only [intTuple?] at ih
    simp [intTuple?, int?, ih]

end Value

end RoamTuning
