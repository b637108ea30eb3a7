import RoamTuning.Override.Grammar
import RoamTuning.Override.Pairs
import RoamTuning.ParamSet.Document

/-!
# Override text

Override text changes some of the tunable parameters, for example
`rssi5=-80:-77:-70:-57,horizon=20`. `Override.parse` derives a new parameter
set from a base and leaves every parameter that the text does not name as it
is; keys that name no tunable parameter are passed over. The result is not
checked against the domain. `Override.render` writes the tunable parameters of
a set as override text.

Results:

* `parse_of_malformed`, `parse_of_repeated`: the two ways in which a text fails
  as a whole; the first comes before the second.
* `parse_platform`: parsing never changes a constant of the platform.
* `get_parse_of_not_named`: parsing changes only what the text names.
* `arrayOver_int`: an array of integers always has a length.
* `renderArray_int`: how an array of integers is written.
-/

namespace RoamTuning.Override

open RoamTuning.Text

/-- Why the value of a key has the wrong shape. -/
inductive Reason where
  | notIntegers
  | wrongCount (expected got : Nat)
  | notAnInteger
deriving DecidableEq, Repr

/-- Why a text is no override of a base. Model of `GrammarError` and `ParseError`. -/
inductive Error where
  /-- The text does not follow the grammar. -/
  | malformed (text : String)
  /-- The text has two pairs with one key. -/
  | repeatedKey (text : String)
  /-- The value of a tunable parameter has the wrong shape. -/
  | badValue (key value : String) (reason : Reason)
  /-- The base cannot be used as is needed. -/
  | unfit (m : Value.Misfit)
deriving DecidableEq, Repr

/-- What is said of a value of the wrong shape. -/
def Reason.message : Reason → String
  | notIntegers => "expected colon-separated integers"
  | wrongCount expected got =>
    "expected " ++ Numeral.text expected ++ " values, got " ++ Numeral.text got
  | notAnInteger => "expected an integer"

/-- What is said of a text that is no override. -/
def Error.message : Error → String
  | malformed _ => "Override does not match key=value grammar"
  | repeatedKey _ => "Override has duplicate keys"
  | badValue key _ reason => "Bad value for " ++ key ++ ": " ++ reason.message
  | unfit m => m.message

/-! ## Parsing -/

variable {α ρ : Type} [Quantity α] [Row ρ α]

/-- Checks a text against the grammar. Model of `check_grammar`. -/
def checkGrammar (text : String) : Except Error Unit :=
  if accepts text then .ok () else .error (.malformed text)

/-- The array that a table gives a key, or the base's if it has none. The array
    has to be as long as the base's, which is asked for in any case. Model of
    `_parse_int_array`. -/
def arrayOver (t : PairTable) (base : ParamSet α ρ) (k : ArrayKey) : Except Error ρ := do
  let size ← (Row.size (base.array k)).mapError .unfit
  match t.get? k.name with
  | none => return base.array k
  | some v =>
    match PairTable.readInts v with
    | .error _ => throw (.badValue k.name v .notIntegers)
    | .ok ns =>
      if ns.length = size then return Row.ofIntegers ns
      else throw (.badValue k.name v (.wrongCount size ns.length))

/-- The scalar that a table gives a key, or the base's if it has none. Model of
    `_parse_scalar`. -/
def scalarOver (t : PairTable) (base : ParamSet α ρ) (k : ScalarKey) : Except Error α :=
  match t.get? k.name with
  | none => .ok (base.scalar k)
  | some v =>
    match Numeral.readWord v with
    | .error _ => .error (.badValue k.name v .notAnInteger)
    | .ok n => .ok (Quantity.ofInt n)

/-- The tunables that a table gives, or the base's where it has none. -/
def tunablesOver (t : PairTable) (base : ParamSet α ρ) : Except Error (Tunables α ρ) := do
  let rssi24 ← arrayOver t base .rssi24
  let rssi5 ← arrayOver t base .rssi5
  let rssi6 ← arrayOver t base .rssi6
  let packetRates ← arrayOver t base .packetRates
  let horizon ← scalarOver t base .horizon
  let nud ← scalarOver t base .nud
  let experiment ← scalarOver t base .experiment
  return { rssi24, rssi5, rssi6, packetRates, horizon, nud, experiment }

/-- Applies override text to a base. Keys are distinct exactly when the table
    has as many of them as the text has pieces. Model of `parse_override`. -/
def parse (text : String) (base : ParamSet α ρ) : Except Error (ParamSet α ρ) := do
  checkGrammar text
  let t := pairTable .comma text
  if t.size ≠ (pieces .comma text.toList).length then throw (.repeatedKey text)
  let tunables ← tunablesOver t base
  return { base with tunables }

/-- The parameters that a text names, among those that it can change. -/
def named (text : String) : List ParamSet.Field :=
  ParamSet.Field.tunable.filter fun f => (pairTable .comma text).contains f.name

/-! ## Rendering -/

/-- An array as it is written in override text. -/
def renderArray (r : ρ) : String :=
  joined ":" ((Row.toList r).map fun x => (Quantity.value x).written)

/-- The pairs that write the tunable parameters of a set. -/
def renderedPairs (p : ParamSet α ρ) : List (String × String) :=
  (ArrayKey.all.map fun k => (k.name, renderArray (p.array k)))
    ++ ScalarKey.all.map fun k => (k.name, (Quantity.value (p.scalar k)).written)

/-- The tunable parameters of a set as override text. Model of `render_values`. -/
def render (p : ParamSet α ρ) : String :=
  joined "," ((renderedPairs p).map fun e => e.1 ++ "=" ++ e.2)

/-! ## Laws -/

theorem arrayOver_int (t : PairTable) (base : IntParams) (k : ArrayKey) :
    arrayOver t base k = match t.get? k.name with
      | none => .ok (base.array k)
      | some v =>
        match PairTable.readInts v with
        | .error _ => .error (.badValue k.name v .notIntegers)
        | .ok ns =>
          if ns.length = (base.array k).length then .ok ns
          else .error (.badValue k.name v (.wrongCount (base.array k).length ns.length)) := by
  rfl

theorem renderArray_int (ns : List Int) : renderArray ns = joined ":" (ns.map Numeral.text) := by
  simp [renderArray]

theorem parse_of_malformed {text : String} (h : accepts text = false) (base : ParamSet α ρ) :
    parse text base = .error (.malformed text) := by
  simp [parse, checkGrammar, h, bind, Except.bind]

theorem parse_of_repeated {text : String} (h : accepts text = true)
    (repeated : (pairTable .comma text).size ≠ (pieces .comma text.toList).length)
    (base : ParamSet α ρ) : parse text base = .error (.repeatedKey text) := by
  simp [parse, checkGrammar, h, repeated, bind, Except.bind, throw, throwThe, MonadExcept.throw,
    throwThe, MonadExceptOf.throw]

theorem parse_platform {text : String} {base p : ParamSet α ρ} (h : parse text base = .ok p) :
    p.platform = base.platform := by
  unfold parse at h
  cases hg : checkGrammar text with
  | error e => simp [hg, bind, Except.bind] at h
  | ok u =>
    simp only [hg, bind, Except.bind] at h
    split at h
    · cases h
    · cases ht : tunablesOver (pairTable .comma text) base with
      | error e => simp [ht] at h
      | ok t =>
        simp only [ht, pure, Except.pure] at h
        exact (Except.ok.inj h) ▸ rfl

omit [Quantity α] in
theorem arrayOver_of_absent {t : PairTable} {base : ParamSet α ρ} {k : ArrayKey} {r : ρ}
    (absent : t.get? k.name = none) (h : arrayOver t base k = .ok r) : r = base.array k := by
  simp only [arrayOver, absent, bind, Except.bind, pure, Except.pure] at h
  split at h
  · cases h
  · exact (Except.ok.inj h).symm

omit [Row ρ α] in
theorem scalarOver_of_absent {t : PairTable} {base : ParamSet α ρ} {k : ScalarKey} {x : α}
    (absent : t.get? k.name = none) (h : scalarOver t base k = .ok x) : x = base.scalar k := by
  simp only [scalarOver, absent] at h
  exact (Except.ok.inj h).symm

theorem tunablesOver_eq_ok {t : PairTable} {base : ParamSet α ρ} {u : Tunables α ρ}
    (h : tunablesOver t base = .ok u) :
    (∀ k, arrayOver t base k = .ok (u.array k)) ∧ ∀ k, scalarOver t base k = .ok (u.scalar k) := by
  simp only [tunablesOver, bind, Except.bind, pure, Except.pure] at h
  cases a : arrayOver t base .rssi24 <;> simp only [a] at h <;> try cases h
  cases b : arrayOver t base .rssi5 <;> simp only [b] at h <;> try cases h
  cases c : arrayOver t base .rssi6 <;> simp only [c] at h <;> try cases h
  cases d : arrayOver t base .packetRates <;> simp only [d] at h <;> try cases h
  cases e : scalarOver t base .horizon <;> simp only [e] at h <;> try cases h
  cases f : scalarOver t base .nud <;> simp only [f] at h <;> try cases h
  cases g : scalarOver t base .experiment <;> simp only [g] at h <;> try cases h
  exact ⟨fun k => by cases k <;> assumption, fun k => by cases k <;> assumption⟩

/-- Parsing leaves every parameter that the text does not name. -/
theorem get_parse_of_not_named {text : String} {base p : ParamSet α ρ}
    (h : parse text base = .ok p) {f : ParamSet.Field} (other : f ∉ named text) :
    p.get f = base.get f := by
  unfold parse at h
  cases hg : checkGrammar text with
  | error e => simp [hg, bind, Except.bind] at h
  | ok u =>
    simp only [hg, bind, Except.bind] at h
    split at h
    · cases h
    · cases ht : tunablesOver (pairTable .comma text) base with
      | error e => simp [ht] at h
      | ok t =>
        simp only [ht, pure, Except.pure] at h
        obtain rfl := Except.ok.inj h
        obtain ⟨arrays, scalars⟩ := tunablesOver_eq_ok ht
        simp only [named, List.mem_filter, not_and, Table.contains] at other
        cases f with
        | array k =>
          have absent : (pairTable .comma text).get? k.name = none := by
            simpa [ParamSet.Field.name] using other (by cases k <;> decide)
          exact congrArg Row.value (arrayOver_of_absent absent (arrays k))
        | scalar k =>
          have absent : (pairTable .comma text).get? k.name = none := by
            simpa [ParamSet.Field.name] using other (by cases k <;> decide)
          exact congrArg Quantity.value (scalarOver_of_absent absent (scalars k))
        | constant c => rfl
        | beaconBoost6GHz => rfl

end RoamTuning.Override
