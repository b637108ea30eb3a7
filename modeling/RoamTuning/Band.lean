import RoamTuning.Value
import RoamTuning.Logged

/-!
# Frequency bands

The three bands of wireless networks, each with thresholds of its own, and the
band that a frequency in MHz belongs to. Where the bands would leave a
frequency out, the thresholds of 5 GHz apply and the look-up is logged, or it
fails if the frequency has too many digits to be written into the log.

Results:

* `ofText?_eq_some_iff`: the texts that name bands.
* `classify_eq_none_iff`: the frequencies in no band.
-/

namespace RoamTuning

/-- A frequency band with thresholds of its own. Model of `Band`. -/
inductive Band where
  | ghz24
  | ghz5
  | ghz6
deriving DecidableEq, Repr

namespace Band

/-- The bands from the lowest to the highest. -/
def all : List Band := [ghz24, ghz5, ghz6]

/-- The text that names a band. -/
def text : Band → String
  | ghz24 => "2.4ghz"
  | ghz5 => "5ghz"
  | ghz6 => "6ghz"

/-- The band that a text names. -/
def ofText? (s : String) : Option Band :=
  all.find? fun b => b.text == s

/-- The band that a value names; only a text does. -/
def ofValue? : Value → Option Band
  | .text s => ofText? s
  | _ => none

/-- What is said of a value that names no band. -/
def unknownMessage (v : Value) : String := v.shown ++ " is not a valid Band"

/-- The symbol of a band in a message. -/
def symbol : Band → String
  | ghz24 => "BAND_24_GHZ"
  | ghz5 => "BAND_5_GHZ"
  | ghz6 => "BAND_6_GHZ"

/-- A band in a message. -/
def shown (b : Band) : String :=
  "<Band." ++ b.symbol ++ ": " ++ Text.quoted b.text ++ ">"

theorem ofText?_text (b : Band) : ofText? b.text = some b := by
  cases b <;> decide

theorem ofText?_eq_some_iff {s : String} {b : Band} : ofText? s = some b ↔ s = b.text := by
  constructor
  · intro h
    have := List.find?_some h
    exact (beq_iff_eq.1 this).symm
  · rintro rfl
    exact ofText?_text b

/-! ## Frequencies -/

/-- Whether a frequency lies in the 2.4 GHz band. Model of `is_24ghz`. -/
def is24GHz (frequency : Int) : Bool := 2412 ≤ frequency && frequency ≤ 2484

/-- Whether a frequency lies in the 5 GHz band. Model of `is_5ghz`. -/
def is5GHz (frequency : Int) : Bool := 5160 ≤ frequency && frequency ≤ 5885

/-- Whether a frequency lies in the 6 GHz band, to which a single channel below
    its main range belongs too. Model of `is_6ghz`. -/
def is6GHz (frequency : Int) : Bool :=
  frequency == 5935 || (5955 ≤ frequency && frequency ≤ 7115)

/-- The band that a frequency belongs to. Model of `classify_frequency`. -/
def classify (frequency : Int) : Option Band :=
  if is24GHz frequency then some ghz24
  else if is5GHz frequency then some ghz5
  else if is6GHz frequency then some ghz6
  else none

/-- The band whose thresholds apply to a frequency in no band, with the record
    that says so. The frequency has to be written for that. -/
def forUnclassified {ε : Type} (frequency : Except ε String) : Logged ε Band := do
  let written ← Logged.ofExcept frequency
  Logged.note .error
    ("Invalid frequency(" ++ written ++ "), using 5G as default rssi array")
  return ghz5

/-- The band whose thresholds apply to a frequency. Model of `band_for_frequency`. -/
def forFrequency {ε : Type} [Numeral.Limited ε] (frequency : Int) : Logged ε Band :=
  match classify frequency with
  | some b => return b
  | none => forUnclassified (Numeral.tryText frequency)

theorem classify_eq_none_iff (frequency : Int) :
    classify frequency = none
      ↔ is24GHz frequency = false ∧ is5GHz frequency = false ∧ is6GHz frequency = false := by
  unfold classify
  cases is24GHz frequency <;> cases is5GHz frequency <;> cases is6GHz frequency <;> simp

end Band

end RoamTuning
