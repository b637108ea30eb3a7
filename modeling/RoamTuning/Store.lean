import RoamTuning.Defaults
import RoamTuning.Override
import RoamTuning.Override.Grammar
import RoamTuning.Value.Conversion
import RoamTuning.Weights

/-!
# The parameter store

A store holds the one active parameter set and replaces it as a whole: a
candidate is derived from the active set, checked against the domain, and only
then installed. Every installed set gets the number of its commit, so two
snapshots are the same one exactly when their numbers agree, whatever values
they hold.

A write is planned before the active set is looked at: its text or its
thresholds are read, and defaults are loaded where a reset asks for them. What
is left is a change to be committed, or an answer without one.

Results:

* `install?_self`: a candidate derived from the active snapshot is installed.
* `update_some`: what an update comes to, once its text is known.
-/

namespace RoamTuning

open Text

/-- How a parameter set is derived from a base. -/
abbrev Derivation (α ρ : Type) : Type := ParamSet α ρ → Except Override.Error (ParamSet α ρ)

/-- A parameter set that was or is active, with the number of its commit. -/
structure Snapshot (α ρ : Type) where
  commit : Nat
  params : ParamSet α ρ
deriving DecidableEq, Repr

/-- A store of parameters and frequency weights. Model of `ScoringParams`. -/
structure Store (α ρ : Type) where
  /-- Where defaults are read from; only the built-in ones if there is no source. -/
  source : Option Source
  /-- Whether the platform scores frequencies by their weights. -/
  weightsSupported : Bool
  active : Snapshot α ρ
  weights : WeightTable

/-- A store of integers. -/
abbrev IntStore : Type := Store Int (List Int)

/-- Why a change of the parameters is rejected. -/
inductive Rejection where
  /-- The override text cannot be applied. -/
  | override (e : Override.Error)
  /-- The derived set does not pass the checks. -/
  | invalid (d : Defect)
deriving DecidableEq, Repr

/-- What is said of a rejected change. -/
def Rejection.message : Rejection → String
  | .override e => e.message
  | .invalid d => d.message

/-- The misfit behind a rejection, if the change could not even be judged. -/
def Rejection.misfit? : Rejection → Option Value.Misfit
  | .override (.unfit m) => some m
  | .invalid (.uncheckable m) => some m
  | _ => none

/-- What ends an operation without an answer. -/
inductive Fault where
  /-- Defaults could not be loaded. -/
  | load (e : LoadError)
  /-- The given starting values do not pass the checks. -/
  | start (d : Defect)
  /-- A value cannot be used as is needed. -/
  | unfit (m : Value.Misfit)
deriving DecidableEq, Repr

instance : Numeral.Limited Fault := ⟨.unfit Numeral.Limited.unwritable⟩

/-- What is said of a fault. -/
def Fault.message : Fault → String
  | load e => e.message
  | start d => d.message
  | unfit m => m.message

namespace Store

variable {α ρ : Type} [Quantity α] [Row ρ α]

/-! ## Building a store -/

/-- A store that starts from given values, which have to pass the checks, or
    from the defaults of its source. Model of the construction of `ScoringParams`. -/
def build (source : Option Source) (weightsSupported : Bool) (values : Option (ParamSet α ρ)) :
    Logged Fault (Store α ρ) := do
  let params ←
    match values with
    | none => ParamSet.ofIntegers <$> (loadSet source).mapError .load
    | some p => Logged.ofExcept (p.validated.mapError .start)
  return ⟨source, weightsSupported, ⟨0, params⟩, Table.empty⟩

/-- The active set as override text. Model of `render_current`. -/
def rendered (s : Store α ρ) : String := Override.render s.active.params

/-! ## Committing -/

/-- The set derived from a base, if it can be derived and is in the domain. -/
def candidate (derive : Derivation α ρ) (base : ParamSet α ρ) :
    Except Rejection (ParamSet α ρ) := do
  let p ← (derive base).mapError .override
  p.validated.mapError .invalid

/-- Installs a set derived from a base, if the base is still active. -/
def install? (s : Store α ρ) (base : Snapshot α ρ) (p : ParamSet α ρ) : Option (Store α ρ) :=
  if s.active.commit = base.commit then some { s with active := ⟨base.commit + 1, p⟩ } else none

/-- Installs the set derived from the active one, with nobody else at work. Model of
    `_commit`. -/
def commit (s : Store α ρ) (derive : Derivation α ρ) :
    Except Rejection (Store α ρ) := do
  let p ← candidate derive s.active.params
  return (s.install? s.active p).getD s

/-! ## Writes -/

/-- A change of the parameters that is ready to be committed. -/
structure Change (α ρ : Type) where
  /-- How the new set is derived from the active one. -/
  derive : Derivation α ρ
  /-- What is said, before the reason, if the change is rejected. -/
  rejection : String
  /-- What is said, before the active set, once the change is committed. -/
  announcement : Option String

/-- What a write comes to before the active set is looked at. -/
inductive Plan (α ρ : Type) where
  /-- There is nothing to commit, and this is the answer. -/
  | done (answer : Bool)
  | commit (change : Change α ρ)

/-- A request to write parameters. -/
inductive Write where
  /-- Override text, which may be missing. -/
  | update (text : Option String)
  /-- Thresholds for one band. -/
  | bandThresholds (b : Band) (thresholds : Value)
  /-- Thresholds for a band that is itself given by a value. -/
  | thresholds (band thresholds : Value)

/-- Rejects a request, and says so. -/
def reject {β : Type} (answer : β) (message : String) : Logged Fault β := do
  Logged.note .warning message
  return answer

/-- Applying override text. Blank text asks for nothing. -/
def planUpdate (text : String) : Plan α ρ :=
  if isBlankText text then .done true
  else .commit {
    derive := Override.parse text
    rejection := "Rejected scoring params update '" ++ Override.sanitize text ++ "': "
    announcement := some "Scoring params updated: " }

/-- The thresholds that ask for the defaults of a band. -/
def resetThresholds : List Int := [0, 0, 0, 0]

/-- The thresholds that a request for a band asks for: four integers, or the
    defaults of the band where all four are zero; `none` if it is rejected. -/
def requestedThresholds (source : Option Source) (b : Band) (thresholds : Value) :
    Logged Fault (Option (List Int)) :=
  match thresholds.items >>= Value.toInts with
  | .error .infinite => Logged.fail (.unfit .infinite)
  | .error e =>
    reject none ("Rejected RSSI thresholds for band " ++ b.shown ++ ": " ++ e.message)
  | .ok ns =>
    if ns.length ≠ resetThresholds.length then
      reject none
        ("Rejected " ++ b.key.name ++ " thresholds " ++ Value.showIntegers ns ++ ": need 4 values")
    else if ns = resetThresholds then
      some <$> (loadBand source b ParamSet.builtIn).mapError .load
    else return some ns

/-- Making four integers the thresholds of a band. -/
def planThresholds (b : Band) (ns : List Int) : Plan α ρ :=
  .commit {
    derive := fun p => .ok (p.setRssi b (Row.ofIntegers ns))
    rejection := "Rejected " ++ b.key.name ++ " thresholds " ++ Value.showIntegers ns ++ ": "
    announcement := none }

/-- Setting the thresholds of a band from a value of any kind. -/
def planBandThresholds (source : Option Source) (b : Band) (thresholds : Value) :
    Logged Fault (Plan α ρ) := do
  match ← requestedThresholds source b thresholds with
  | none => return .done false
  | some ns => return planThresholds b ns

/-- What a write comes to with a source of defaults. -/
def Write.plan (source : Option Source) : Write → Logged Fault (Plan α ρ)
  | update none => return .done true
  | update (some text) => return planUpdate text
  | bandThresholds b v => planBandThresholds source b v
  | thresholds band v =>
    match Band.ofValue? band with
    | some b => planBandThresholds source b v
    | none =>
      reject (.done false)
        ("Rejected RSSI thresholds for band " ++ band.shown ++ ": " ++ Band.unknownMessage band)

/-- What is logged and answered once a change is committed to a store. -/
def Change.accepted (c : Change α ρ) (s : Store α ρ) : Logged Fault Bool := do
  match c.announcement with
  | some text => Logged.note .info (text ++ s.rendered)
  | none => pure ()
  return true

/-- What is logged and answered if a change is rejected; a change that could not
    be judged is a fault instead. -/
def Change.rejected (c : Change α ρ) (e : Rejection) : Logged Fault Bool :=
  match e.misfit? with
  | some m => Logged.fail (.unfit m)
  | none => reject false (c.rejection ++ e.message)

/-- Carries out a plan, with nobody else at work. -/
def carryOut (s : Store α ρ) : Plan α ρ → Store α ρ × Logged Fault Bool
  | .done answer => (s, return answer)
  | .commit c =>
    match s.commit c.derive with
    | .ok s' => (s', c.accepted s')
    | .error e => (s, c.rejected e)

/-- Carries out a write. A fault in planning leaves the store as it is. -/
def write (s : Store α ρ) (w : Write) : Store α ρ × Logged Fault Bool :=
  let plan := w.plan s.source
  match plan.outcome with
  | .error e => (s, ⟨plan.log, .error e⟩)
  | .ok p =>
    let (s', answer) := s.carryOut p
    (s', ⟨plan.log ++ answer.log, answer.outcome⟩)

/-- Changes the parameters by override text. Nothing changes if any part of the
    text is rejected, or if there is no text or only blanks. Model of `update`. -/
def update (s : Store α ρ) (text : Option String) : Store α ρ × Logged Fault Bool :=
  s.write (.update text)

/-- Sets the thresholds of a band from a value of any kind. Model of `set_rssi2_thresholds`
    and its two siblings. -/
def setBandThresholds (s : Store α ρ) (b : Band) (thresholds : Value) :
    Store α ρ × Logged Fault Bool :=
  s.write (.bandThresholds b thresholds)

/-- Sets the thresholds of a band that is itself given by a value of any kind. Model of
    `set_rssi_thresholds`. -/
def setThresholds (s : Store α ρ) (band thresholds : Value) : Store α ρ × Logged Fault Bool :=
  s.write (.thresholds band thresholds)

/-! ## Frequency weights -/

/-- Replaces the table of weights. Model of `set_frequency_weights`. -/
def setWeights (s : Store α ρ) (weights : List (Int × Value)) : Store α ρ :=
  { s with weights := Table.ofPairs weights }

/-- The score of a frequency, which is neutral on a platform without support. Model of
    `get_frequency_score`. -/
def score {ε : Type} [Numeral.Limited ε] (s : Store α ρ) (frequency : Int) : Logged ε Int :=
  if s.weightsSupported then s.weights.score frequency else return WeightTable.neutralScore

/-! ## Laws -/

omit [Quantity α] [Row ρ α] in
theorem install?_self (s : Store α ρ) (p : ParamSet α ρ) :
    s.install? s.active p = some { s with active := ⟨s.active.commit + 1, p⟩ } := by
  simp [install?]

theorem commit_eq (s : Store α ρ) (derive : Derivation α ρ) :
    s.commit derive = (candidate derive s.active.params).map
      fun p => { s with active := ⟨s.active.commit + 1, p⟩ } := by
  cases h : candidate derive s.active.params with
  | error e => simp [commit, h, bind, Except.bind, Except.map]
  | ok p => simp [commit, h, bind, Except.bind, Except.map, install?_self, pure, Except.pure]

theorem update_some (s : Store α ρ) (text : String) :
    s.update (some text) = s.carryOut (planUpdate text) := rfl

end Store

end RoamTuning
