import RoamTuning.ParamSet.Document
import RoamTuning.Value.Names

/-!
# Members that are no parameters

To those who ask by name a parameter set is an object: its parameters are
members, and what it can do goes by names that all sets share. An object may
have more members than that. They are never shown, but a member hides what is
shared under its name: asked for by that name it is found instead, and a plain
value can neither be called nor do anything.

Copies take changes by name. As a rule every name becomes a member. Options among
the members may open a set, and then only the names of parameters do, or of what
a member declares to be the parameters; the other names are put aside.

Results:

* `call_of_absent`: nothing is hidden without a member of the name.
* `taken_of_closed`: a set that is not open takes all names.
* `copyNamed_of_closed`: neither is anything put aside by a set that is not open.
-/

namespace RoamTuning

open ParamSet (Field)
open Value (Misfit)

/-- The members of an object. -/
abbrev Members : Type := Table String Value

namespace Members

/-! ## Hiding what is shared -/

/-- Calls what goes by a name. A member is found in its place, and no member can
    be called. -/
def call (ms : Members) (name : String) : Except Misfit Unit :=
  match ms.get? name with
  | some v => .error (.notCallable v.kindName)
  | none => .ok ()

/-- Uses an operation of what goes by a name. A member is found in its place, and
    no member has an operation. -/
def use (ms : Members) (name operation : String) : Except Misfit Unit :=
  match ms.get? name with
  | some v => .error (.lacking v.kindName operation)
  | none => .ok ()

/-- Whether a set can be copied. -/
def copying (ms : Members) : Except Misfit Unit := do
  ms.call "model_copy"
  ms.call "__copy__"

/-- Whether a set can give all its parameters. -/
def listing (ms : Members) : Except Misfit Unit := do
  ms.call "model_dump"
  ms.use "__pydantic_serializer__" "to_python"

/-- Whether a set can give the thresholds of a band. -/
def thresholds (ms : Members) : Except Misfit Unit := ms.call "get_rssi_for_band"

/-- Whether a set can give the parameters that override text can change. -/
def tunables (ms : Members) : Except Misfit Unit := ms.call "overridable_dict"

/-- What a set is compared as: nothing if it is compared as a parameter set. -/
def origin (ms : Members) : Except Misfit (Option Value) :=
  match ms.get? "__pydantic_generic_metadata__" with
  | none => .ok none
  | some v => (v.named "origin").map fun w => if w.isSet then some w else none

/-! ## Taking names -/

/-- Whether a set is open: whether its options allow names that are no parameters. -/
def isOpen (ms : Members) : Except Misfit Bool :=
  match ms.get? "model_config" with
  | none => .ok false
  | some (.object options) =>
    .ok (match Table.getIn "extra" options with
      | some v => v.isText "allow"
      | none => false)
  | some v => .error (.lacking v.kindName "get")

/-- Whether a name is one of a parameter. -/
def isParameter (ms : Members) (name : String) : Except Misfit Bool :=
  match ms.get? "__pydantic_fields__" with
  | none => .ok ((Field.all.map Field.name).contains name)
  | some v => v.hasName name

/-- Those of some names that become members of a copy. If there are none, the
    options are not even looked at. -/
def taken (ms : Members) (names : List String) : Except Misfit (List String) :=
  if names.isEmpty then .ok []
  else do
    if ← ms.isOpen then names.filterM ms.isParameter else return names

/-! ## Assigning -/

/-- The name of what an object has put aside. -/
def asideName : String := "__pydantic_extra__"

/-- Whether names of an object can be given values at all: the ways to do so go by
    names as well. -/
def assigning (ms : Members) (name : String) : Except Misfit Unit := do
  match ms.get? "__pydantic_setattr_handlers__" with
  | none => pure ()
  | some (.object ways) =>
    match Table.getIn name ways with
    | none | some .null => pure ()
    | some way => throw (.notCallable way.kindName)
  | some v => throw (.lacking v.kindName "get")
  ms.call "_setattr_handler"

/-- Puts a value aside under a name. Where nothing was put aside before, an empty
    object is assigned first. -/
def putAside (ms : Members) (aside : Value) (name : String) (v : Value) : Except Misfit Value :=
  match aside with
  | .null => do
    ms.assigning asideName
    (Value.object []).withName name v
  | aside => aside.withName name v

/-- The names of what all sets share for good. -/
def sharedNames : List String := [
  "__class_vars__", "__private_attributes__", "__signature__", "__pydantic_complete__",
  "__pydantic_core_schema__", "__pydantic_custom_init__", "__pydantic_decorators__",
  "__pydantic_generic_metadata__", "__pydantic_parent_namespace__", "__pydantic_post_init__",
  "__pydantic_root_model__", "__pydantic_serializer__", "__pydantic_validator__",
  "__pydantic_fields__", "__pydantic_setattr_handlers__", "__pydantic_computed_fields__"]

/-- What a copy of a base comes to that is given the parameters that are named, as
    a set has them: those that are taken it has as well, the others it has put
    aside. -/
def copyNamed {α ρ : Type} [Quantity α] [Row ρ α] (ms : Members) (aside : Value)
    (named : List Field) (base p : ParamSet α ρ) : Except Misfit (ParamSet α ρ × Value) := do
  ms.copying
  let taken ← ms.taken (named.map Field.name)
  let left := named.filter fun f => !taken.contains f.name
  let aside' ← left.foldlM (fun v f => ms.putAside v f.name (p.get f)) aside
  return (ParamSet.choose left.contains base p, aside')

/-! ## Laws -/

theorem call_of_absent {ms : Members} {name : String} (h : ms.get? name = none) :
    ms.call name = .ok () := by
  simp [call, h]

theorem taken_of_closed {ms : Members} (h : ms.isOpen = .ok false) (names : List String) :
    ms.taken names = .ok names := by
  cases names with
  | nil => rfl
  | cons name r => simp [taken, h, bind, Except.bind, pure, Except.pure]

@[simp] theorem copying_empty : copying Table.empty = .ok () := rfl

@[simp] theorem listing_empty : listing Table.empty = .ok () := rfl

@[simp] theorem thresholds_empty : thresholds Table.empty = .ok () := rfl

/-- Where all names are taken, a copy is what its base was to become, and nothing
    is put aside. -/
theorem copyNamed_of_closed {α ρ : Type} [Quantity α] [Row ρ α] {ms : Members}
    (copied : ms.copying = .ok ()) (closed : ms.isOpen = .ok false) (aside : Value)
    (named : List Field) (base p : ParamSet α ρ) :
    ms.copyNamed aside named base p = .ok (p, aside) := by
  have none_left : (named.filter fun f => !(named.map Field.name).contains f.name) = [] := by
    rw [List.filter_eq_nil_iff]
    intro f hf
    simpa using ⟨f, hf, rfl⟩
  simp only [copyNamed, copied, taken_of_closed closed, none_left, bind, Except.bind]
  rfl

end Members

end RoamTuning
