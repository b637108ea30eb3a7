import RoamTuning.Attribute
import RoamTuning.ParamSet.Domain
import RoamTuning.ParamSet.Members

/-!
# Parameter sets as objects

To those who ask by name a parameter set is an object with members. As a rule
these are the parameters. An object whose members were replaced as a whole may
lack some of them, and its other members, which are not shown, may hide
operations. Beside its members an object has three things of its own, which no
member hides: what was put aside, what is kept private, and a note of the names
that were given.

Results:

* `get_ofParams`, `rssi_ofParams`, `tunableMembers_ofParams`: a set as an object
  has its parameters.
* `check_ofParams`: it passes the checks that the set passes.
* `members_copy`: what a copy has under a name where all names are taken.
-/

namespace RoamTuning

open Value (Misfit)

/-- An object in the place of a parameter set. -/
structure ParamObject where
  members : Members
  /-- What was put aside under names that are no parameters; null if nothing was. -/
  aside : Value
  /-- What is kept private; null if nothing is. -/
  secret : Value
  /-- The note of the names that were given, if it has been replaced. -/
  note : Option Value

namespace ParamObject

open ParamSet (Field)

/-- The kind of object that a set is. -/
def kindName : String := "ScoringValues"

/-- A set as an object. -/
def ofParams (p : RawParams) : ParamObject := ⟨Table.ofPairs p.members, .null, .null, none⟩

/-! ## Reading -/

/-- An object has nothing of a name. -/
def lacking (name : String) : Misfit := .lacking kindName name

/-- What an object has of a name that is no member: what it keeps private under
    the name, if members declare it private, or else what it has put aside. -/
def beside (o : ParamObject) (name : String) : Except Misfit Value := do
  let declared := (o.members.get? "__private_attributes__").getD (.object [])
  if ← declared.hasName name then
    let _ ← declared.named name
    match o.secret.named name with
    | .error (.noName _) => throw (lacking name)
    | found => found
  else if o.aside.isSet then
    if ← o.aside.hasName name then o.aside.named name else throw (lacking name)
  else throw (lacking name)

/-- The value of a parameter. -/
def get (o : ParamObject) (f : Field) : Except Misfit Value :=
  match o.members.get? f.name with
  | some v => .ok v
  | none => o.beside f.name

/-- The parameters that an object has as members. -/
def parameters (o : ParamObject) : List (String × Value) :=
  Field.all.filterMap fun f => (o.members.get? f.name).map fun v => (f.name, v)

/-- The parameters that an object gives when it is asked for all of them. -/
def listed (o : ParamObject) : Except Misfit (List (String × Value)) := do
  o.members.listing
  return o.parameters

/-- The thresholds of a band. -/
def rssi (o : ParamObject) (b : Band) : Except Misfit Value := do
  o.members.thresholds
  o.get (.array b.key)

/-- The members that override text can change. -/
def tunableMembers (o : ParamObject) : Except Misfit (List (String × Value)) := do
  o.members.tunables
  Field.tunable.mapM fun f => (o.get f).map fun v => (f.name, v)

/-! ## Checking -/

/-- The parameters of an object, with null in the place of those it lacks. -/
def filled (o : ParamObject) : RawParams :=
  let value (f : Field) : Value :=
    match o.get f with
    | .ok v => v
    | .error _ => .null
  { tunables := .ofFn (fun k => value (.array k)) fun k => value (.scalar k)
    platform := .ofFn (fun c => value (.constant c)) (value .beaconBoost6GHz) }

/-- Makes a check of a parameter, which an object has to have. -/
def checkField (o : ParamObject) (f : Field) (check : Except Defect Unit) : Except Defect Unit := do
  let _ ← (o.get f).mapError .uncheckable
  check

/-- Checks an object as sets are checked, parameter by parameter. -/
def check (o : ParamObject) : Except Defect Unit := do
  let p := o.filled
  ArrayKey.all.forM fun k => o.checkField (.array k) (p.checkArray k)
  ScalarKey.all.forM fun k => o.checkField (.scalar k) (p.checkScalar k)
  ParamSet.selectionTimes.forM fun c => o.checkField (.constant c) (p.checkMinutes c)

/-! ## Copying -/

/-- Whether what is kept private can be copied: it has to have names. -/
def copyingSecret (o : ParamObject) : Except Misfit Unit :=
  match o.secret with
  | .null | .object _ => .ok ()
  | v => .error (.lacking v.kindName "items")

/-- Notes the names that a copy was given. -/
def noting (o : ParamObject) (names : List String) : Except Misfit Unit :=
  match o.note with
  | none => .ok ()
  | some v => v.noteNames names

/-- Gives an object a change, in which a list is fixed: as a member if the name is
    among those taken, or else aside. -/
def receive (taken : List String) (o : ParamObject) (change : String × Value) :
    Except Misfit ParamObject :=
  if taken.contains change.1 then
    .ok { o with members := o.members.put change.1 change.2.fixed }
  else (o.members.putAside o.aside change.1 change.2.fixed).map fun v => { o with aside := v }

/-- The object with changes. -/
def copy (o : ParamObject) (changes : List (String × Value)) : Except Misfit ParamObject := do
  o.members.copying
  o.copyingSecret
  let names := changes.map (·.1)
  let copied ← changes.foldlM (receive (← o.members.taken names)) o
  unless names.isEmpty do copied.noting names
  return copied

/-- Whether what two values have under a name is equal. -/
def equalsUnder (v w : Value) (name : String) : Bool :=
  match v.named name, w.named name with
  | .ok x, .ok y => x.equals y
  | _, _ => false

/-- Whether an object and a copy of it are compared as the same. What they are
    compared as is the same one unless it is among the names taken. -/
def sameOrigin (taken : List String) (v w : Option Value) : Bool :=
  match v, w with
  | none, none => true
  | some v, some w =>
    if taken.contains "__pydantic_generic_metadata__" then v.equals w else v.equalsItself
  | _, _ => false

/-- Whether an object equals a copy of it with changes. What is not named stays
    the same one; what is named has to be equal. -/
def equalsCopy (o copied : ParamObject) (changes : List (String × Value)) :
    Except Misfit Bool := do
  let names := changes.map (·.1)
  let taken ← o.members.taken names
  let left := names.filter fun name => !taken.contains name
  let origin ← copied.members.origin
  let origin' ← o.members.origin
  return sameOrigin taken origin' origin && o.aside.equalsItself
    && left.all (equalsUnder o.aside copied.aside)
    && Field.all.all fun f =>
      if taken.contains f.name then
        match o.members.get? f.name, copied.members.get? f.name with
        | some v, some w => v.equals w
        | _, _ => false
      else true

/-! ## Assigning -/

/-- Why a name of a finished set cannot be given a value. -/
inductive AssignError where
  /-- Finished sets do not change. -/
  | frozen (i : Issue)
  | refused (e : Attribute.Refusal)
  /-- A member stands in the way. -/
  | unfit (m : Misfit)
deriving DecidableEq, Repr

/-- The private names whose values are computed. -/
def computedNames : List String := ["__fields__", "__fields_set__"]

/-- The name of what an object keeps private. -/
def secretName : String := "__pydantic_private__"

/-- The name of the note of the names that were given. -/
def noteName : String := "__pydantic_fields_set__"

/-- Gives a private name of an object a value. Among these are the names of all
    the members and of what the object has beside them. -/
def assignPrivate (o : ParamObject) (name : String) (v : Value) :
    Except Attribute.Refusal ParamObject :=
  if computedNames.contains name then .error (.computed name kindName)
  else if name = Members.asideName then .ok { o with aside := v }
  else if name = secretName then .ok { o with secret := v }
  else if name = noteName then .ok { o with note := some v }
  else
    match Attribute.effect kindName name v with
    | .ordinary => .ok { o with members := o.members.put name v }
    | .replaced ms => .ok { o with members := Table.ofPairs ms }
    | .refused e => .error e

/-- Gives a name of a finished set a value. Only a name that starts with a low
    line, a private one, may be given one, unless all sets share what goes by it. -/
def assign (o : ParamObject) (name : String) (v : Value) : Except AssignError ParamObject := do
  (o.members.assigning name).mapError .unfit
  if Members.sharedNames.contains name then throw (.refused (.shared name kindName))
  else if name.toList.head? = some '_' then (o.assignPrivate name v).mapError .refused
  else throw (.frozen ⟨.frozenInstance, [.member name]⟩)

/-! ## Taking every name -/

theorem foldlM_receive {taken : List String} {changes : List (String × Value)}
    (all : ∀ e ∈ changes, e.1 ∈ taken) (o : ParamObject) :
    changes.foldlM (receive taken) o
      = .ok { o with members := changes.foldl (fun t e => t.put e.1 e.2.fixed) o.members } := by
  induction changes generalizing o with
  | nil => rfl
  | cons e r ih =>
    have first : receive taken o e = .ok { o with members := o.members.put e.1 e.2.fixed } := by
      simp [receive, all e (by simp)]
    rw [List.foldlM_cons, first]
    exact ih (fun e' h => all e' (List.mem_cons_of_mem _ h)) _

/-- Where all names are taken, a copy has every change as a member. -/
theorem members_copy {o copied : ParamObject} {changes : List (String × Value)}
    (closed : o.members.isOpen = .ok false) (h : o.copy changes = .ok copied) :
    copied.members = changes.foldl (fun t e => t.put e.1 e.2.fixed) o.members := by
  have every := @foldlM_receive (changes.map (·.1)) changes
    (fun e he => List.mem_map_of_mem he) o
  simp only [copy, Members.taken_of_closed closed, bind, Except.bind, every] at h
  split at h
  · cases h
  · split at h
    · cases h
    · split at h
      · exact (Except.ok.inj h) ▸ rfl
      · split at h
        · cases h
        · exact (Except.ok.inj h) ▸ rfl

/-! ## Sets as objects -/

theorem get_ofParams (p : RawParams) (f : Field) : (ofParams p).get f = .ok (p.get f) := by
  simp [get, ofParams, ParamSet.get?_members]

theorem get?_ofParams_of_other (p : RawParams) {name : String}
    (h : name ∉ Field.all.map Field.name) : (ofParams p).members.get? name = none := by
  rw [← ParamSet.keys_members p] at h
  exact Table.get?_eq_none_iff.2 h

theorem rssi_ofParams (p : RawParams) (b : Band) : (ofParams p).rssi b = .ok (p.rssi b) := by
  have shown : (ofParams p).members.thresholds = .ok () :=
    Members.call_of_absent (get?_ofParams_of_other p (by decide +kernel))
  simp only [rssi, shown, get_ofParams]
  rfl

theorem tunableMembers_ofParams (p : RawParams) :
    (ofParams p).tunableMembers = .ok p.tunableMembers := by
  have shown : (ofParams p).members.tunables = .ok () :=
    Members.call_of_absent (get?_ofParams_of_other p (by decide +kernel))
  simp only [tunableMembers, shown, get_ofParams]
  rfl

theorem filled_ofParams (p : RawParams) : (ofParams p).filled = p := by
  simp only [filled, get_ofParams]
  rfl

theorem check_ofParams (p : RawParams) : (ofParams p).check = p.check := by
  have step : ∀ f c, (ofParams p).checkField f c = c := by
    intro f c
    simp only [checkField, get_ofParams]
    rfl
  simp only [check, step, filled_ofParams]
  rfl

end ParamObject

end RoamTuning
