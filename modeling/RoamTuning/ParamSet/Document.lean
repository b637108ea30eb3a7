import RoamTuning.ParamSet
import RoamTuning.Table
import RoamTuning.Value.Decoding

/-!
# Parameter sets as documents

A parameter set is written as an object with one member for each parameter, and
a set of integers is read from such an object. A member that is absent has its
built-in value; every member that does not fit is reported, in the order in
which the parameters are declared, and after them the members that are no
parameter.

Results:

* `get_choose`: what a set has that is put together from two.
* `ofMembers_members`: reading what was written gives a set of integers back, if
  its arrays are complete and its flag is a truth value.
-/

namespace RoamTuning.ParamSet

open RoamTuning

/-- The parameters. -/
inductive Field where
  | array (key : ArrayKey)
  | scalar (key : ScalarKey)
  | constant (c : Constant)
  | beaconBoost6GHz
deriving DecidableEq, Repr

namespace Field

/-- The constants that are declared before the 6 GHz beacon flag. -/
def constantsBeforeBoost : List Constant := Constant.all.take 4

/-- The constants that are declared after the 6 GHz beacon flag. -/
def constantsAfterBoost : List Constant := Constant.all.drop 4

/-- The parameters in the order in which they are declared. -/
def all : List Field :=
  ArrayKey.all.map array ++ ScalarKey.all.map scalar ++ constantsBeforeBoost.map constant
    ++ beaconBoost6GHz :: constantsAfterBoost.map constant

/-- The parameters that override text can change. -/
def tunable : List Field := ArrayKey.all.map array ++ ScalarKey.all.map scalar

def name : Field → String
  | array k => k.name
  | scalar k => k.name
  | constant c => c.name
  | beaconBoost6GHz => "enable_6ghz_beacon_rssi_boost"

end Field

variable {α ρ : Type} [Quantity α] [Row ρ α]

/-- The value of a parameter. -/
def get (p : ParamSet α ρ) : Field → Value
  | .array k => Row.value (p.array k)
  | .scalar k => Quantity.value (p.scalar k)
  | .constant c => Quantity.value (p.constant c)
  | .beaconBoost6GHz => p.platform.beaconBoost6GHz

/-- The members of the document of a set. -/
def members (p : ParamSet α ρ) : List (String × Value) :=
  Field.all.map fun f => (f.name, p.get f)

/-- The members that override text can change. Model of `overridable_dict`. -/
def tunableMembers (p : ParamSet α ρ) : List (String × Value) :=
  Field.tunable.map fun f => (f.name, p.get f)

/-- Whether two sets have the same parameters in a comparison. -/
def same (p q : ParamSet α ρ) : Bool :=
  Field.all.all fun f => (p.get f).same (q.get f)

/-! ## Choosing between sets -/

/-- The parameters of one set where a test holds, and those of another elsewhere. -/
def choose (test : Field → Bool) (p q : ParamSet α ρ) : ParamSet α ρ where
  tunables := .ofFn
    (fun k => if test (.array k) then p.array k else q.array k)
    fun k => if test (.scalar k) then p.scalar k else q.scalar k
  platform := .ofFn
    (fun c => if test (.constant c) then p.constant c else q.constant c)
    (if test .beaconBoost6GHz then p.platform.beaconBoost6GHz else q.platform.beaconBoost6GHz)

theorem get_choose (test : Field → Bool) (p q : ParamSet α ρ) (f : Field) :
    (choose test p q).get f = if test f then p.get f else q.get f := by
  rcases f with k | k | c | _
  · cases k <;> simp only [get, array, choose, Tunables.array, Tunables.ofFn] <;> split <;> rfl
  · cases k <;> simp only [get, scalar, choose, Tunables.scalar, Tunables.ofFn] <;> split <;> rfl
  · simp only [get, constant, choose, Platform.constant_ofFn]
    split <;> rfl
  · simp only [get, choose, Platform.ofFn]

/-! ## Replacing -/

/-- The parameter of a name. -/
def Field.ofName? (s : String) : Option Field :=
  all.find? fun f => f.name == s

/-- The set with another value of a parameter, unchecked: no kind of value and
    no length is asked for. -/
def replace (p : RawParams) (f : Field) (v : Value) : RawParams :=
  match f with
  | .array k => { p with tunables := p.tunables.setArray k v }
  | .scalar k => { p with tunables := p.tunables.setScalar k v }
  | .constant c => { p with platform := p.platform.setConstant c v }
  | .beaconBoost6GHz => { p with platform := { p.platform with beaconBoost6GHz := v } }

/-- The set with other values of the parameters that are named. -/
def replaceNamed (p : RawParams) (values : List (String × Value)) : RawParams :=
  values.foldl (fun q e =>
    match Field.ofName? e.1 with
    | some f => q.replace f e.2
    | none => q) p

/-- The set with changes, in which lists are fixed. -/
def replaceAll (p : RawParams) (changes : List (String × Value)) : RawParams :=
  p.replaceNamed (changes.map fun e => (e.1, e.2.fixed))

/-! ## Reading -/

/-- The issues of a decoding. -/
def issuesOf {α : Type} : Except (List Issue) α → List Issue
  | .ok _ => []
  | .error is => is

/-- Decodes the items of an array from a position on. The items that are
    absent are missing. -/
def decodeItems (place : List Step) : (index absent : Nat) → List Value → List Issue × List Int
  | index, absent, [] =>
    ((List.range absent).map fun i => ⟨.missing, place ++ [.item (index + i)]⟩, [])
  | index, absent, v :: r =>
    let (issues, ns) := decodeItems place (index + 1) (absent - 1) r
    match v.decodeInt with
    | .ok n => (issues, n :: ns)
    | .error kind => (⟨kind, place ++ [.item index]⟩ :: issues, ns)

/-- Decodes the items of an array of a given size. -/
def decodeRow (place : List Step) (size : Nat) (vs : List Value) :
    Except (List Issue) (List Int) :=
  if size < vs.length then .error [⟨.tooLong, place⟩]
  else
    match decodeItems place 0 size vs with
    | ([], ns) => .ok ns
    | (issues, _) => .error issues

/-- Decodes an array of a given size. -/
def decodeArray (place : List Step) (size : Nat) : Value → Except (List Issue) (List Int)
  | .list vs => decodeRow place size vs
  | .tuple vs => decodeRow place size vs
  | _ => .error [⟨.tupleType, place⟩]

/-- Decodes a member by a rule, or takes a default where it is absent. -/
def decodeMember {α : Type} (t : Table String Value) (name : String) (default : α)
    (rule : Value → Except (List Issue) α) : Except (List Issue) α :=
  match t.get? name with
  | some v => rule v
  | none => .ok default

/-- The array of a document. -/
def readArray (t : Table String Value) (k : ArrayKey) : Except (List Issue) (List Int) :=
  decodeMember t k.name (builtIn.array k) (decodeArray [.member k.name] k.size)

/-- The integer of a document. -/
def readInt (t : Table String Value) (name : String) (default : Int) : Except (List Issue) Int :=
  decodeMember t name default fun v =>
    v.decodeInt.mapError fun kind => [⟨kind, [.member name]⟩]

/-- The scalar of a document. -/
def readScalar (t : Table String Value) (k : ScalarKey) : Except (List Issue) Int :=
  readInt t k.name (builtIn.scalar k)

/-- The constant of a document. -/
def readConstant (t : Table String Value) (c : Constant) : Except (List Issue) Int :=
  readInt t c.name (builtIn.constant c)

/-- The 6 GHz beacon flag of a document. -/
def readBoost (t : Table String Value) : Except (List Issue) Value :=
  let name := Field.name .beaconBoost6GHz
  decodeMember t name builtIn.platform.beaconBoost6GHz fun v =>
    (v.decodeBool.map Value.bool).mapError fun kind => [⟨kind, [.member name]⟩]

/-- The issues of a parameter in a document. -/
def fieldIssues (t : Table String Value) : Field → List Issue
  | .array k => issuesOf (readArray t k)
  | .scalar k => issuesOf (readScalar t k)
  | .constant c => issuesOf (readConstant t c)
  | .beaconBoost6GHz => issuesOf (readBoost t)

/-- The issues of a document. -/
def issues (t : Table String Value) : List Issue :=
  Field.all.flatMap (fieldIssues t)
    ++ (t.keys.filter fun key => !(Field.all.map Field.name).contains key).map
      fun key => ⟨.extraForbidden, [.member key]⟩

/-- What a decoding gave, or a default. -/
def valueOr {α : Type} (default : α) : Except (List Issue) α → α
  | .ok a => a
  | .error _ => default

/-- The set that a document without issues describes. -/
def assembled (t : Table String Value) : IntParams where
  tunables := .ofFn (fun k => valueOr [] (readArray t k)) (fun k => valueOr 0 (readScalar t k))
  platform := .ofFn (fun c => valueOr 0 (readConstant t c)) (valueOr .null (readBoost t))

/-- Reads a set from the members of a document. Model of the construction of
    `ScoringValues`. -/
def ofMembers (ms : List (String × Value)) : Except (List Issue) IntParams :=
  let t := Table.ofPairs ms
  match issues t with
  | [] => .ok (assembled t)
  | is => .error is

/-! ## Reading what was written -/

theorem decodeItems_int (place : List Step) (index : Nat) (ns : List Int) :
    decodeItems place index ns.length (ns.map .int) = ([], ns) := by
  induction ns generalizing index with
  | nil => rfl
  | cons n r ih => simp [decodeItems, ih]

theorem decodeArray_int (place : List Step) (ns : List Int) :
    decodeArray place ns.length (.tuple (ns.map .int)) = .ok ns := by
  simp [decodeArray, decodeRow, decodeItems_int]

theorem Field.mem_all (f : Field) : f ∈ Field.all := by
  rcases f with k | k | c | _
  · cases k <;> decide
  · cases k <;> decide
  · cases c <;> decide
  · decide

theorem Field.nodup_names : (Field.all.map Field.name).Nodup := by
  decide +kernel

theorem entries_members (p : ParamSet α ρ) : (Table.ofPairs p.members).entries = p.members := by
  apply Table.entries_ofPairs
  rw [members, List.map_map]
  exact Field.nodup_names

theorem keys_members (p : ParamSet α ρ) :
    (Table.ofPairs p.members).keys = Field.all.map Field.name := by
  rw [Table.keys, entries_members, members, List.map_map]
  rfl

theorem get?_members (p : ParamSet α ρ) (f : Field) :
    (Table.ofPairs p.members).get? f.name = some (p.get f) := by
  rw [Table.get?, entries_members]
  exact Table.getIn_map Field.nodup_names f.mem_all

theorem readArray_members {p : IntParams} (h : p.Shaped) (k : ArrayKey) :
    readArray (Table.ofPairs p.members) k = .ok (p.array k) := by
  have := get?_members p (.array k)
  simp only [Field.name] at this
  simp only [readArray, decodeMember, this, get, Row.value_list, ← h k]
  exact decodeArray_int _ _

theorem readScalar_members (p : IntParams) (k : ScalarKey) :
    readScalar (Table.ofPairs p.members) k = .ok (p.scalar k) := by
  have := get?_members p (.scalar k)
  simp only [Field.name] at this
  simp [readScalar, readInt, decodeMember, this, get]

theorem readConstant_members (p : IntParams) (c : Constant) :
    readConstant (Table.ofPairs p.members) c = .ok (p.constant c) := by
  have := get?_members p (.constant c)
  simp only [Field.name] at this
  simp [readConstant, readInt, decodeMember, this, get]

theorem readBoost_members {p : IntParams} {b : Bool}
    (flag : p.platform.beaconBoost6GHz = .bool b) :
    readBoost (Table.ofPairs p.members) = .ok p.platform.beaconBoost6GHz := by
  have := get?_members p .beaconBoost6GHz
  simp [readBoost, decodeMember, this, get, flag, Except.map]

theorem issues_members {p : IntParams} {b : Bool} (h : p.Shaped)
    (flag : p.platform.beaconBoost6GHz = .bool b) :
    issues (Table.ofPairs p.members) = [] := by
  have fields : ∀ f, fieldIssues (Table.ofPairs p.members) f = [] := by
    intro f
    cases f <;>
      simp [fieldIssues, readArray_members h, readScalar_members, readConstant_members,
        readBoost_members flag, issuesOf]
  have extras : (Field.all.map Field.name).filter
      (fun key => !(Field.all.map Field.name).contains key) = [] := by
    rw [List.filter_eq_nil_iff]
    intro key hkey
    simp [hkey]
  simp only [issues, keys_members, extras, List.map_nil, List.append_nil]
  rw [List.flatMap_eq_nil_iff]
  exact fun f _ => fields f

/-- Reading what was written gives the set back. -/
theorem ofMembers_members {p : IntParams} {b : Bool} (h : p.Shaped)
    (flag : p.platform.beaconBoost6GHz = .bool b) : ofMembers p.members = .ok p := by
  simp only [ofMembers, issues_members h flag, assembled, readArray_members h,
    readScalar_members, readConstant_members, readBoost_members flag, valueOr]
  rfl

end RoamTuning.ParamSet
