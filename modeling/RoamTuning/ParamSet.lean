import RoamTuning.Band
import RoamTuning.Quantity

/-!
# Parameter sets

The parameters used when scoring networks. Seven of them are tunable at run
time: the signal thresholds of the three bands, the packet rates, the forecast
horizon, the aggressiveness of reachability checks and the experiment
identifier. The others are constants of the platform, fixed when a store is
built.

Sets of integers are `IntParams`. In a set that is given by hand, one of the
`RawParams`, parameters may hold anything.

Results:

* `array_setArray`, `scalar_setScalar`: what is read after a parameter is set.
* `constant_ofFn`: the constants of a platform built from a function.
* `rssi_of_setRssi`: setting the thresholds of one band leaves the others.
* `ofIntegers_int`: a set of integers is its own set of quantities.
* `integers?_ofIntegers`: the integers of a set of values are found again.
-/

namespace RoamTuning

/-! ## The names of the parameters -/

/-- The tunable parameters that are arrays. -/
inductive ArrayKey where
  | rssi24
  | rssi5
  | rssi6
  | packetRates
deriving DecidableEq, Repr

/-- The tunable parameters that are single integers. -/
inductive ScalarKey where
  | horizon
  | nud
  | experiment
deriving DecidableEq, Repr

/-- The integer constants of a platform. -/
inductive Constant where
  | throughputBonusNumerator
  | throughputBonusDenominator
  | throughputBonusNumeratorAfter800Mbps
  | throughputBonusDenominatorAfter800Mbps
  | throughputBonusLimit
  | savedNetworkBonus
  | unmeteredNetworkBonus
  | currentNetworkBonusMin
  | currentNetworkBonusPercent
  | secureNetworkBonus
  | band6GHzBonus
  | scoringBucketStepSize
  | lastUnmeteredSelectionMinutes
  | lastMeteredSelectionMinutes
  | estimateRssiErrorMargin
deriving DecidableEq, Repr

namespace ArrayKey

/-- The arrays in the order in which they are checked and written. -/
def all : List ArrayKey := [rssi24, rssi5, rssi6, packetRates]

def name : ArrayKey → String
  | rssi24 => "rssi2"
  | rssi5 => "rssi5"
  | rssi6 => "rssi6"
  | packetRates => "pps"

/-- How many integers a complete array has. -/
def size : ArrayKey → Nat
  | packetRates => 3
  | _ => 4

end ArrayKey

namespace ScalarKey

/-- The scalars in the order in which they are checked and written. -/
def all : List ScalarKey := [horizon, nud, experiment]

def name : ScalarKey → String
  | horizon => "horizon"
  | nud => "nud"
  | experiment => "expid"

end ScalarKey

namespace Constant

/-- The constants in the order in which they are declared. -/
def all : List Constant := [
  throughputBonusNumerator, throughputBonusDenominator, throughputBonusNumeratorAfter800Mbps,
  throughputBonusDenominatorAfter800Mbps, throughputBonusLimit, savedNetworkBonus,
  unmeteredNetworkBonus, currentNetworkBonusMin, currentNetworkBonusPercent,
  secureNetworkBonus, band6GHzBonus, scoringBucketStepSize, lastUnmeteredSelectionMinutes,
  lastMeteredSelectionMinutes, estimateRssiErrorMargin]

def name : Constant → String
  | throughputBonusNumerator => "throughput_bonus_numerator"
  | throughputBonusDenominator => "throughput_bonus_denominator"
  | throughputBonusNumeratorAfter800Mbps => "throughput_bonus_numerator_after_800mbps"
  | throughputBonusDenominatorAfter800Mbps => "throughput_bonus_denominator_after_800mbps"
  | throughputBonusLimit => "throughput_bonus_limit"
  | savedNetworkBonus => "saved_network_bonus"
  | unmeteredNetworkBonus => "unmetered_network_bonus"
  | currentNetworkBonusMin => "current_network_bonus_min"
  | currentNetworkBonusPercent => "current_network_bonus_percent"
  | secureNetworkBonus => "secure_network_bonus"
  | band6GHzBonus => "band_6ghz_bonus"
  | scoringBucketStepSize => "scoring_bucket_step_size"
  | lastUnmeteredSelectionMinutes => "last_unmetered_selection_minutes"
  | lastMeteredSelectionMinutes => "last_metered_selection_minutes"
  | estimateRssiErrorMargin => "estimate_rssi_error_margin"

end Constant

/-- A band's thresholds are one of the arrays. -/
def Band.key : Band → ArrayKey
  | .ghz24 => .rssi24
  | .ghz5 => .rssi5
  | .ghz6 => .rssi6

/-! ## The parameters -/

/-- The parameters that can be changed at run time. -/
structure Tunables (α ρ : Type) where
  /-- Thresholds of the 2.4 GHz band: exit, entry, sufficient, good (dBm). -/
  rssi24 : ρ
  /-- Thresholds of the 5 GHz band. -/
  rssi5 : ρ
  /-- Thresholds of the 6 GHz band. -/
  rssi6 : ρ
  /-- Packet rates: idle, active, high traffic (packets per second). -/
  packetRates : ρ
  /-- Seconds of the signal forecast. -/
  horizon : α
  /-- How eagerly unreachability is checked for, from 0 to 10. -/
  nud : α
  /-- A mark for sets of experimental values. -/
  experiment : α
deriving DecidableEq, Repr

/-- The constants of a platform. -/
structure Platform (α : Type) where
  /-- Numerator of the bonus per Mbps of throughput. -/
  throughputBonusNumerator : α
  /-- Denominator of the bonus per Mbps of throughput. -/
  throughputBonusDenominator : α
  /-- Numerator of the bonus per Mbps above 800 Mbps. -/
  throughputBonusNumeratorAfter800Mbps : α
  /-- Denominator of the bonus per Mbps above 800 Mbps. -/
  throughputBonusDenominatorAfter800Mbps : α
  /-- The most that throughput contributes to a score. -/
  throughputBonusLimit : α
  /-- Bonus of a saved network. -/
  savedNetworkBonus : α
  /-- Bonus of an unmetered network. -/
  unmeteredNetworkBonus : α
  /-- The least bonus of the current network. -/
  currentNetworkBonusMin : α
  /-- Bonus of the current network, as a percentage of its score. -/
  currentNetworkBonusPercent : α
  /-- Bonus of a secure network. -/
  secureNetworkBonus : α
  /-- Bonus of a network in the 6 GHz band. -/
  band6GHzBonus : α
  /-- The score that separates one tier of networks from the next. -/
  scoringBucketStepSize : α
  /-- Minutes for which a recently chosen unmetered network is favoured. -/
  lastUnmeteredSelectionMinutes : α
  /-- Minutes for which a recently chosen metered network is favoured. -/
  lastMeteredSelectionMinutes : α
  /-- Margin of error of an estimated signal strength. -/
  estimateRssiErrorMargin : α
  /-- Whether the signal of 6 GHz beacons is raised by channel width; a value that
      is never looked at, only handed out. -/
  beaconBoost6GHz : Value
deriving DecidableEq, Repr

/-- One complete set of parameters, with quantities of one kind and rows of
    another. Model of `ScoringValues`. -/
structure ParamSet (α ρ : Type) where
  tunables : Tunables α ρ
  platform : Platform α
deriving DecidableEq, Repr

/-- Sets of integers. -/
abbrev IntParams : Type := ParamSet Int (List Int)

/-- Sets of values of any kind. -/
abbrev RawParams : Type := ParamSet Value Value

namespace Tunables

variable {α β ρ σ : Type}

def array (t : Tunables α ρ) : ArrayKey → ρ
  | .rssi24 => t.rssi24
  | .rssi5 => t.rssi5
  | .rssi6 => t.rssi6
  | .packetRates => t.packetRates

def scalar (t : Tunables α ρ) : ScalarKey → α
  | .horizon => t.horizon
  | .nud => t.nud
  | .experiment => t.experiment

def setArray (t : Tunables α ρ) (k : ArrayKey) (r : ρ) : Tunables α ρ :=
  match k with
  | .rssi24 => { t with rssi24 := r }
  | .rssi5 => { t with rssi5 := r }
  | .rssi6 => { t with rssi6 := r }
  | .packetRates => { t with packetRates := r }

def setScalar (t : Tunables α ρ) (k : ScalarKey) (n : α) : Tunables α ρ :=
  match k with
  | .horizon => { t with horizon := n }
  | .nud => { t with nud := n }
  | .experiment => { t with experiment := n }

/-- The tunables with given arrays and scalars. -/
def ofFn (arrays : ArrayKey → ρ) (scalars : ScalarKey → α) : Tunables α ρ where
  rssi24 := arrays .rssi24
  rssi5 := arrays .rssi5
  rssi6 := arrays .rssi6
  packetRates := arrays .packetRates
  horizon := scalars .horizon
  nud := scalars .nud
  experiment := scalars .experiment

theorem array_setArray (t : Tunables α ρ) (k j : ArrayKey) (r : ρ) :
    (t.setArray k r).array j = if j = k then r else t.array j := by
  cases k <;> cases j <;> rfl

theorem scalar_setScalar (t : Tunables α ρ) (k j : ScalarKey) (n : α) :
    (t.setScalar k n).scalar j = if j = k then n else t.scalar j := by
  cases k <;> cases j <;> rfl

@[simp] theorem scalar_setArray (t : Tunables α ρ) (k : ArrayKey) (r : ρ) (j : ScalarKey) :
    (t.setArray k r).scalar j = t.scalar j := by
  cases k <;> rfl

@[simp] theorem array_setScalar (t : Tunables α ρ) (k : ScalarKey) (n : α) (j : ArrayKey) :
    (t.setScalar k n).array j = t.array j := by
  cases k <;> rfl

/-- The tunables with every quantity and every row replaced. -/
def map (f : α → β) (g : ρ → σ) (t : Tunables α ρ) : Tunables β σ :=
  ofFn (fun k => g (t.array k)) (fun k => f (t.scalar k))

@[simp] theorem ofFn_array_scalar (t : Tunables α ρ) : ofFn t.array t.scalar = t := rfl

/-- Tunables agree when their arrays and scalars do. -/
theorem ext_array_scalar {t u : Tunables α ρ} (arrays : ∀ k, t.array k = u.array k)
    (scalars : ∀ k, t.scalar k = u.scalar k) : t = u := by
  rw [← ofFn_array_scalar t, ← ofFn_array_scalar u, funext arrays, funext scalars]

end Tunables

namespace Platform

variable {α β : Type}

/-- The value of a constant. -/
def constant (p : Platform α) : Constant → α
  | .throughputBonusNumerator => p.throughputBonusNumerator
  | .throughputBonusDenominator => p.throughputBonusDenominator
  | .throughputBonusNumeratorAfter800Mbps => p.throughputBonusNumeratorAfter800Mbps
  | .throughputBonusDenominatorAfter800Mbps => p.throughputBonusDenominatorAfter800Mbps
  | .throughputBonusLimit => p.throughputBonusLimit
  | .savedNetworkBonus => p.savedNetworkBonus
  | .unmeteredNetworkBonus => p.unmeteredNetworkBonus
  | .currentNetworkBonusMin => p.currentNetworkBonusMin
  | .currentNetworkBonusPercent => p.currentNetworkBonusPercent
  | .secureNetworkBonus => p.secureNetworkBonus
  | .band6GHzBonus => p.band6GHzBonus
  | .scoringBucketStepSize => p.scoringBucketStepSize
  | .lastUnmeteredSelectionMinutes => p.lastUnmeteredSelectionMinutes
  | .lastMeteredSelectionMinutes => p.lastMeteredSelectionMinutes
  | .estimateRssiErrorMargin => p.estimateRssiErrorMargin

/-- The platform with given constants. -/
def ofFn (constants : Constant → α) (beaconBoost6GHz : Value) : Platform α where
  throughputBonusNumerator := constants .throughputBonusNumerator
  throughputBonusDenominator := constants .throughputBonusDenominator
  throughputBonusNumeratorAfter800Mbps := constants .throughputBonusNumeratorAfter800Mbps
  throughputBonusDenominatorAfter800Mbps := constants .throughputBonusDenominatorAfter800Mbps
  throughputBonusLimit := constants .throughputBonusLimit
  savedNetworkBonus := constants .savedNetworkBonus
  unmeteredNetworkBonus := constants .unmeteredNetworkBonus
  currentNetworkBonusMin := constants .currentNetworkBonusMin
  currentNetworkBonusPercent := constants .currentNetworkBonusPercent
  secureNetworkBonus := constants .secureNetworkBonus
  band6GHzBonus := constants .band6GHzBonus
  scoringBucketStepSize := constants .scoringBucketStepSize
  lastUnmeteredSelectionMinutes := constants .lastUnmeteredSelectionMinutes
  lastMeteredSelectionMinutes := constants .lastMeteredSelectionMinutes
  estimateRssiErrorMargin := constants .estimateRssiErrorMargin
  beaconBoost6GHz := beaconBoost6GHz

@[simp] theorem constant_ofFn (constants : Constant → α) (boost : Value) (c : Constant) :
    (ofFn constants boost).constant c = constants c := by
  cases c <;> rfl

@[simp] theorem ofFn_constant (p : Platform α) : ofFn p.constant p.beaconBoost6GHz = p := rfl

/-- The platform with another value of one constant. -/
def setConstant (p : Platform α) (c : Constant) (n : α) : Platform α :=
  ofFn (fun d => if d = c then n else p.constant d) p.beaconBoost6GHz

/-- The platform with every quantity replaced. -/
def map (f : α → β) (p : Platform α) : Platform β :=
  ofFn (fun c => f (p.constant c)) p.beaconBoost6GHz

end Platform

namespace ParamSet

variable {α β ρ σ : Type}

def array (p : ParamSet α ρ) (k : ArrayKey) : ρ := p.tunables.array k

def scalar (p : ParamSet α ρ) (k : ScalarKey) : α := p.tunables.scalar k

def constant (p : ParamSet α ρ) (c : Constant) : α := p.platform.constant c

/-- The thresholds of a band. Model of `get_rssi_for_band`. -/
def rssi (p : ParamSet α ρ) (b : Band) : ρ := p.array b.key

/-- The set with other thresholds of one band. -/
def setRssi (p : ParamSet α ρ) (b : Band) (r : ρ) : ParamSet α ρ :=
  { p with tunables := p.tunables.setArray b.key r }

/-- The set with every quantity and every row replaced. -/
def map (f : α → β) (g : ρ → σ) (p : ParamSet α ρ) : ParamSet β σ :=
  ⟨p.tunables.map f g, p.platform.map f⟩

theorem rssi_of_setRssi (p : ParamSet α ρ) (b c : Band) (r : ρ) :
    (p.setRssi b r).rssi c = if c = b then r else p.rssi c := by
  cases b <;> cases c <;> rfl

/-- Whether every array is complete. -/
def Shaped (p : IntParams) : Prop := ∀ k, (p.array k).length = k.size

instance (p : IntParams) : Decidable p.Shaped :=
  decidable_of_iff (∀ k ∈ ArrayKey.all, (p.array k).length = k.size)
    ⟨fun h k => h k (by cases k <;> decide), fun h k _ => h k⟩

/-! ## Sets of integers and other sets -/

/-- A set of integers as a set of some quantities and rows. -/
def ofIntegers [Quantity α] [Row ρ α] (p : IntParams) : ParamSet α ρ :=
  p.map Quantity.ofInt Row.ofIntegers

@[simp] theorem ofIntegers_int (p : IntParams) : (ofIntegers p : IntParams) = p := rfl

/-- Whether a set of values holds integers and tuples of integers only. -/
def isIntegral (p : RawParams) : Bool :=
  (ArrayKey.all.all fun k => (p.array k).intTuple?.isSome)
    && (ScalarKey.all.all fun k => (p.scalar k).int?.isSome)
    && (Constant.all.all fun c => (p.constant c).int?.isSome)

/-- The set of integers that a set of values is, if it is one. -/
def integers? (p : RawParams) : Option IntParams :=
  if p.isIntegral then some (p.map (fun v => v.int?.getD 0) fun v => v.intTuple?.getD [])
  else none

theorem integers?_ofIntegers (p : IntParams) :
    (ofIntegers p : RawParams).integers? = some p := by
  have arrays : ∀ k, ((ofIntegers p : RawParams).array k).intTuple? = some (p.array k) := by
    intro k
    cases k <;> exact Value.intTuple?_ints _
  have scalars : ∀ k, ((ofIntegers p : RawParams).scalar k).int? = some (p.scalar k) := by
    intro k
    cases k <;> rfl
  have constants : ∀ c, ((ofIntegers p : RawParams).constant c).int? = some (p.constant c) := by
    intro c
    cases c <;> rfl
  have integral : (ofIntegers p : RawParams).isIntegral = true := by
    simp [isIntegral, arrays, scalars, constants]
  rw [integers?, if_pos integral]
  have tunables : (ofIntegers p : RawParams).tunables.map (fun v => v.int?.getD 0)
      (fun v => v.intTuple?.getD []) = p.tunables := by
    refine Tunables.ext_array_scalar (fun k => ?_) (fun k => ?_)
    · have := arrays k
      cases k <;> simp_all [array, Tunables.map, Tunables.ofFn, Tunables.array]
    · have := scalars k
      cases k <;> simp_all [scalar, Tunables.map, Tunables.ofFn, Tunables.scalar]
  rw [map, tunables]
  rfl

/-! ## The set that is built in -/

/-- The built-in parameters, used where the platform has none of its own. -/
def builtIn : IntParams where
  tunables :=
    { rssi24 := [-83, -80, -73, -60]
      rssi5 := [-80, -77, -70, -57]
      rssi6 := [-80, -77, -70, -57]
      packetRates := [0, 1, 100]
      horizon := 15
      nud := 8
      experiment := 0 }
  platform :=
    { throughputBonusNumerator := 120
      throughputBonusDenominator := 433
      throughputBonusNumeratorAfter800Mbps := 1
      throughputBonusDenominatorAfter800Mbps := 16
      throughputBonusLimit := 320
      savedNetworkBonus := 500
      unmeteredNetworkBonus := 1000
      currentNetworkBonusMin := 16
      currentNetworkBonusPercent := 20
      secureNetworkBonus := 40
      band6GHzBonus := 0
      scoringBucketStepSize := 500
      lastUnmeteredSelectionMinutes := 480
      lastMeteredSelectionMinutes := 120
      estimateRssiErrorMargin := 5
      beaconBoost6GHz := .bool true }

theorem shaped_builtIn : builtIn.Shaped := by decide

end ParamSet

end RoamTuning
