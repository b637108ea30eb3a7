import RoamTuning.Table
import RoamTuning.Value.Conversion

/-!
# Values that are asked for names

What a value holds under a name. An object has members, so it can be asked for
any name and takes values up under any name; a list holds a name if it is one of
the items, a text if it is a part of the text, and neither has anything under a
name. Values of other kinds hold nothing.

Results:

* `named_withName`: what a value has under a name after it took something up.
-/

namespace RoamTuning.Value

open RoamTuning

/-- Whether a text is a part of another one. -/
def isPart (s t : String) : Bool :=
  match Text.Delimiter.ofText? s with
  | none => true
  | some d => 1 < (Text.pieces d t.toList).length

/-- Whether a value is a given text. -/
def isText (v : Value) (s : String) : Bool :=
  match v with
  | text t => t == s
  | _ => false

/-- Whether a value holds a name. -/
def hasName (v : Value) (name : String) : Except Misfit Bool :=
  match v with
  | object ms => .ok (Table.getIn name ms).isSome
  | list vs => .ok (vs.any fun w => w.isText name)
  | tuple vs => .ok (vs.any fun w => w.isText name)
  | text s => .ok (isPart name s)
  | v => .error (.notContainer v.kindName)

/-- What a value has under a name. -/
def named (v : Value) (name : String) : Except Misfit Value :=
  match v with
  | object ms =>
    match Table.getIn name ms with
    | some w => .ok w
    | none => .error (.noName name)
  | list _ | tuple _ | text _ => .error (.notPosition v.kindName)
  | v => .error (.notIndexable v.kindName)

/-- A value after it has taken something up under a name. -/
def withName (v : Value) (name : String) (w : Value) : Except Misfit Value :=
  match v with
  | object ms => .ok (.object (Table.putIn name w ms))
  | list _ => .error (.notPosition v.kindName)
  | v => .error (.notWritable v.kindName)

/-- Reads names as pairs of characters, from a position on. -/
def pairNames : (index : Nat) → List String → Except Misfit Unit
  | _, [] => .ok ()
  | index, name :: r =>
    if name.length = 2 then pairNames (index + 1) r else .error (.unpaired index name.length)

/-- Notes names in a value. An object takes a row of pairs up, and a value of
    another kind takes nothing. -/
def noteNames (v : Value) (names : List String) : Except Misfit Unit :=
  match v with
  | object _ => pairNames 0 names
  | v => .error (.lacking v.kindName "update")

/-- Whether a value equals itself, which is so unless it is no number. -/
def equalsItself : Value → Bool
  | float .nan => false
  | _ => true

/-! ## Objects -/

theorem named_withName {v u w : Value} {name : String} (h : v.withName name w = .ok u)
    (other : String) : u.named other = if other = name then .ok w else v.named other := by
  cases v with
  | object ms =>
    obtain rfl : object (Table.putIn name w ms) = u := by simpa [withName] using h
    simp only [named, Table.getIn_putIn]
    by_cases same : other = name <;> simp [same]
  | _ => simp [withName] at h

end RoamTuning.Value
