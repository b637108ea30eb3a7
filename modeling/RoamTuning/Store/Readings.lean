import RoamTuning.Store

/-!
# Reading a store

The thresholds that apply to a frequency, and the single parameters. A reading
of one element of an array is a fault where the array has none at its position.

Results:

* `rssiFor_known`: the thresholds of a frequency in a known band, without a record.
* `threshold_of_rssiFor`: a single threshold is the element of the whole array.
-/

namespace RoamTuning

/-- The tiers of the thresholds of a band. -/
inductive Tier where
  /-- The connection is unusable. -/
  | exit
  /-- The least strength for a connection attempt. -/
  | entry
  /-- There is no need to look for another network. -/
  | sufficient
  /-- The connection is good. -/
  | good
deriving DecidableEq, Repr

namespace Tier

/-- The tiers in order. -/
def all : List Tier := [exit, entry, sufficient, good]

/-- The position of a tier in an array of thresholds. -/
def index : Tier → Nat
  | exit => 0
  | entry => 1
  | sufficient => 2
  | good => 3

def name : Tier → String
  | exit => "exit"
  | entry => "entry"
  | sufficient => "sufficient"
  | good => "good"

end Tier

/-- The parameters that are read one at a time. Model of the accessors such as
    `get_horizon_seconds`. -/
inductive Reading where
  | scalar (k : ScalarKey)
  /-- Packets per second at which scans are skipped. -/
  | activeTrafficRate
  /-- Packets per second at which a network is kept whatever its signal. -/
  | highTrafficRate
  | constant (c : Constant)
  | beaconBoost6GHz
deriving DecidableEq, Repr

/-- All the readings in the order in which they are made. -/
def Reading.all : List Reading :=
  ScalarKey.all.map .scalar ++ [.highTrafficRate, .activeTrafficRate]
    ++ Constant.all.map .constant ++ [.beaconBoost6GHz]

namespace Store

variable {α ρ : Type} [Quantity α] [Row ρ α]

/-- The thresholds of the band that a look-up finds. -/
def rssiIn {ε : Type} (s : Store α ρ) (band : Logged ε Band) : Logged ε ρ := do
  let b ← band
  return s.active.params.rssi b

/-- One threshold of the band that a look-up finds. -/
def thresholdIn (s : Store α ρ) (t : Tier) (band : Logged Fault Band) : Logged Fault α := do
  let r ← s.rssiIn band
  Logged.ofExcept ((Row.item r t.index).mapError .unfit)

/-- The thresholds of a band and then each of them, every one looked up anew. -/
def reportIn (s : Store α ρ) (band : Logged Fault Band) : Logged Fault (ρ × List α) := do
  let r ← s.rssiIn band
  let tiers ← Tier.all.mapM fun t => s.thresholdIn t band
  return (r, tiers)

/-- The thresholds that apply to a frequency. Model of `get_rssi_array`. -/
def rssiFor {ε : Type} [Numeral.Limited ε] (s : Store α ρ) (frequency : Int) : Logged ε ρ :=
  s.rssiIn (Band.forFrequency frequency)

/-- One threshold that applies to a frequency. Model of `get_exit_rssi` and its three
    siblings. -/
def threshold (s : Store α ρ) (t : Tier) (frequency : Int) : Logged Fault α :=
  s.thresholdIn t (Band.forFrequency frequency)

/-- The value of a single parameter. -/
def read (s : Store α ρ) (r : Reading) : Except Value.Misfit Value :=
  let p := s.active.params
  match r with
  | .scalar k => .ok (Quantity.value (p.scalar k))
  | .activeTrafficRate => (Row.item p.tunables.packetRates 1).map Quantity.value
  | .highTrafficRate => (Row.item p.tunables.packetRates 2).map Quantity.value
  | .constant c => .ok (Quantity.value (p.constant c))
  | .beaconBoost6GHz => .ok p.platform.beaconBoost6GHz

/-- The values of all the single parameters. -/
def readAll (s : Store α ρ) : Except Fault (List (Reading × Value)) :=
  Reading.all.mapM fun r => ((s.read r).map fun v => (r, v)).mapError .unfit

omit [Quantity α] [Row ρ α] in
theorem rssiFor_known {ε : Type} [Numeral.Limited ε] {s : Store α ρ} {frequency : Int} {b : Band}
    (h : Band.classify frequency = some b) :
    (s.rssiFor frequency : Logged ε ρ) = pure (s.active.params.rssi b) := by
  simp [rssiFor, rssiIn, Band.forFrequency, h, Logged.bind_eq, Logged.andThen, Logged.pure_eq]

omit [Quantity α] in
theorem threshold_of_rssiFor (s : Store α ρ) (t : Tier) (frequency : Int) :
    s.threshold t frequency
      = (s.rssiFor frequency) >>= fun r =>
          Logged.ofExcept ((Row.item r t.index).mapError .unfit) := rfl

end Store

end RoamTuning
