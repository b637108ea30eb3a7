import RoamTuning.Value

/-!
# Names that every object has

Whatever an object is about, a few names of it are not its own: the one of its
class, the one of the table of its members, and the one of the references to it.
No document gives these just any value.

Results:

* `effect_of_other`: any other name is an ordinary one.
-/

namespace RoamTuning.Attribute

/-- The name of the class of an object. -/
def className : String := "__class__"

/-- The name of the table of the members of an object. -/
def membersName : String := "__dict__"

/-- The name of the references to an object. -/
def referencesName : String := "__weakref__"

/-- Why a name of an object cannot be given a value. -/
inductive Refusal where
  /-- A value of that kind is no class. -/
  | notAClass (kind : String)
  /-- A value of that kind is no table of members. -/
  | notMembers (kind : String)
  /-- The name of an object of that kind has a value for good. -/
  | notWritable (name owner : String)
  /-- What goes by the name is computed by objects of that kind. -/
  | computed (name owner : String)
  /-- What goes by the name is shared by all objects of that kind. -/
  | shared (name owner : String)
deriving DecidableEq, Repr

/-- What is said of a name that cannot be given a value. -/
def Refusal.message : Refusal → String
  | notAClass kind => className ++ " must be set to a class, not '" ++ kind ++ "' object"
  | notMembers kind => membersName ++ " must be set to a dictionary, not a '" ++ kind ++ "'"
  | notWritable name owner =>
    "attribute '" ++ name ++ "' of '" ++ owner ++ "' objects is not writable"
  | computed name owner => "property '" ++ name ++ "' of '" ++ owner ++ "' object has no setter"
  | shared name owner =>
    "'" ++ name ++ "' is a ClassVar of `" ++ owner ++ "` and cannot be set on an instance. "
      ++ "If you want to set a value on the class, use `" ++ owner ++ "." ++ name ++ " = value`."

/-- What giving a name of an object a value does. -/
inductive Effect where
  /-- The name is an ordinary one. -/
  | ordinary
  /-- All the members of the object are replaced. -/
  | replaced (members : List (String × Value))
  | refused (e : Refusal)

/-- What giving a name of an object of some kind a value does. -/
def effect (owner name : String) (v : Value) : Effect :=
  if name = className then .refused (.notAClass v.kindName)
  else if name = membersName then
    match v with
    | .object ms => .replaced ms
    | v => .refused (.notMembers v.kindName)
  else if name = referencesName then .refused (.notWritable name owner)
  else .ordinary

theorem effect_of_other {name : String}
    (h : name ∉ [className, membersName, referencesName]) (owner : String) (v : Value) :
    effect owner name v = .ordinary := by
  simp only [List.mem_cons, List.not_mem_nil, or_false, not_or] at h
  simp [effect, h]

end RoamTuning.Attribute
