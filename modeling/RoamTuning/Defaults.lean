import RoamTuning.Defaults.Source
import RoamTuning.ParamSet.Document
import RoamTuning.ParamSet.Domain

/-!
# Loading platform defaults

A store starts from the built-in parameters with the defaults of its platform
laid over them. Each default is read by a name of its own; where the source
has none, or one that cannot be used, the built-in value stays and the log says
so. If the set as a whole is inconsistent, the built-in set is used instead.

Results:

* `consistent_of_shaped`: the re-reading of a complete set changes nothing.
-/

namespace RoamTuning

/-! ## The names of the defaults -/

/-- The part of a name that says which band a threshold is for. -/
def Band.resourceSuffix : Band → String
  | .ghz24 => "24ghz"
  | .ghz5 => "5ghz"
  | .ghz6 => "6ghz"

/-- The part of a name that says which threshold of a band it is for; a band
    has no names beyond the four. -/
def tierResource? : Nat → Option String
  | 0 => some "bad"
  | 1 => some "entry"
  | 2 => some "low"
  | 3 => some "good"
  | _ => none

/-- The name of a threshold of a band. -/
def rssiResource? (b : Band) (index : Nat) : Option String :=
  (tierResource? index).map fun tier =>
    "score_" ++ tier ++ "_rssi_threshold_" ++ b.resourceSuffix

/-- The name of the packet rate of active traffic. -/
def activeRateResource : String := "min_packet_per_second_active_traffic"

/-- The name of the packet rate of high traffic. -/
def highRateResource : String := "min_packet_per_second_high_traffic"

/-- The name of a constant: its own, but for two. -/
def Constant.resource : Constant → String
  | .lastUnmeteredSelectionMinutes => "last_selection_minutes"
  | .estimateRssiErrorMargin => "estimate_rssi_error_margin_db"
  | c => c.name

/-- The name of the 6 GHz beacon flag. -/
def beaconBoostResource : String := ParamSet.Field.name .beaconBoost6GHz

/-! ## Reading one default -/

/-- Why loading could not go on. -/
inductive LoadError where
  /-- The source does not work. -/
  | broken (message : String)
  /-- The given thresholds have no items. -/
  | unlisted (m : Value.Misfit)
  /-- A threshold has no name. -/
  | unnamed (key : String) (index : Nat)
deriving DecidableEq, Repr

/-- What is said of loading that could not go on. -/
def LoadError.message : LoadError → String
  | broken m => m
  | unlisted m => m.message
  | unnamed key index => "(" ++ Text.quoted key ++ ", " ++ Numeral.text index ++ ")"

/-- The integer of an answer, if it is one. -/
def Answer.integer? : Answer → Option Int
  | .value (.int n) => some n
  | _ => none

/-- The truth value of an answer, if it is one. -/
def Answer.truth? : Answer → Option Bool
  | .value (.bool b) => some b
  | _ => none

/-- Keeps the built-in value where an answer cannot be used, and says so. -/
def fallBack {α : Type} (name wanted : String) (shown : String) (default : α) :
    Answer → Logged LoadError α
  | .absent _ => do
    Logged.note .debug ("No platform default for " ++ name ++ ", using " ++ shown)
    return default
  | .broken m => Logged.fail (.broken m)
  | .value v => do
    Logged.note .warning
      ("Unusable platform default for " ++ name ++ ": expected " ++ wanted ++ ", got " ++ v.shown)
    return default
  | .wrongKind m => do
    Logged.note .warning ("Unusable platform default for " ++ name ++ ": " ++ m)
    return default
  | .wrongValue m => do
    Logged.note .warning ("Unusable platform default for " ++ name ++ ": " ++ m)
    return default

variable {α ρ : Type} [Quantity α] [Row ρ α]

/-- The integer that a source has for a name, or a default. Model of `_read` with
    `get_integer`. -/
def readInteger (source : Source) (name : String) (default : α) : Logged LoadError α :=
  let answer := source.integer name
  match answer.integer? with
  | some n => return Quantity.ofInt n
  | none => fallBack name "int" (Quantity.value default).shown default answer

/-- The truth value that a source has for a name, or a default. Model of `_read` with
    `get_boolean`. -/
def readTruth (source : Source) (name : String) (default : Value) : Logged LoadError Value :=
  let answer := source.truth name
  match answer.truth? with
  | some b => return .bool b
  | none => fallBack name "bool" default.shown default answer

/-! ## Loading -/

/-- The thresholds that a source has for a band from a position on, each with
    the given one as default. -/
def loadThresholds (source : Source) (b : Band) : (index : Nat) → List α →
    Logged LoadError (List α)
  | _, [] => return []
  | index, default :: r => do
    match rssiResource? b index with
    | none => Logged.fail (.unnamed b.key.name index)
    | some name =>
      let n ← readInteger source name default
      let ns ← loadThresholds source b (index + 1) r
      return n :: ns

/-- The default thresholds of a band, over those of a given set. Model of
    `load_band_defaults`. -/
def loadBand (source : Option Source) (b : Band) (base : ParamSet α ρ) :
    Logged LoadError (List α) := do
  let given ← Logged.ofExcept ((Row.items (base.rssi b)).mapError .unlisted)
  match source with
  | none => return given
  | some s => loadThresholds s b 0 given

/-- A built-in packet rate, by its position. -/
def builtInRate (index : Nat) : Int := (ParamSet.builtIn.tunables.packetRates[index]?).getD 0

/-- The constants that a source has, as a function of the name. -/
def loadConstants (source : Source) : List Constant → Logged LoadError (Constant → Int)
  | [] => return ParamSet.builtIn.constant
  | c :: r => do
    let n ← readInteger source c.resource (ParamSet.builtIn.constant c)
    let rest ← loadConstants source r
    return fun d => if d = c then n else rest d

/-- The defaults of a source laid over the built-in set. -/
def loadOverlay (source : Source) : Logged LoadError IntParams := do
  let rssi24 ← loadBand (some source) .ghz24 ParamSet.builtIn
  let rssi5 ← loadBand (some source) .ghz5 ParamSet.builtIn
  let rssi6 ← loadBand (some source) .ghz6 ParamSet.builtIn
  let active ← readInteger source activeRateResource (builtInRate 1)
  let high ← readInteger source highRateResource (builtInRate 2)
  let constants ← loadConstants source Constant.all
  let boost ← readTruth source beaconBoostResource ParamSet.builtIn.platform.beaconBoost6GHz
  return {
    tunables := { ParamSet.builtIn.tunables with
      rssi24, rssi5, rssi6, packetRates := [builtInRate 0, active, high] }
    platform := .ofFn constants boost }

/-- Why a set cannot be used. -/
inductive Inconsistency where
  /-- Its document does not describe a set. -/
  | undocumented (issues : List Issue)
  /-- It does not pass the checks. -/
  | invalid (d : Defect)
deriving DecidableEq, Repr

/-- What is said of a set that cannot be used. -/
def Inconsistency.message : Inconsistency → String
  | undocumented issues => Numeral.text issues.length ++ " validation errors"
  | invalid d => d.message

/-- The set read back from its own document and found to be in the domain. -/
def consistent (p : IntParams) : Except Inconsistency IntParams := do
  let q ← (ParamSet.ofMembers p.members).mapError .undocumented
  q.validated.mapError .invalid

/-- The parameters that a store starts from. Model of `load_default_values`. -/
def loadSet (source : Option Source) : Logged LoadError IntParams :=
  match source with
  | none => return ParamSet.builtIn
  | some s => do
    let overlay ← loadOverlay s
    match consistent overlay with
    | .ok p => return p
    | .error e => do
      Logged.note .error
        ("Inconsistent platform scoring defaults (" ++ e.message ++ "), using built-in defaults")
      return ParamSet.builtIn

theorem consistent_of_shaped {p : IntParams} {b : Bool} (h : p.Shaped)
    (flag : p.platform.beaconBoost6GHz = .bool b) :
    consistent p = p.validated.mapError .invalid := by
  simp [consistent, ParamSet.ofMembers_members h flag, bind, Except.bind]

end RoamTuning
