import RoamTuning.Logged
import RoamTuning.Table
import RoamTuning.Value

/-!
# Weights of frequencies

A table gives single frequencies a weight class, which raises or lowers the
score of networks there. The table is replaced as a whole. A stored value that
is no class counts as no weight, and each look-up of it is logged. A look-up
that would have to write too many digits into the log fails.

Results:

* `get?_ofPairs_eq_last`: the last pair of a frequency counts.
* `score_of_absent`: a frequency without an entry has the neutral score.
* `score_of_class`, `score_of_short`, `score_of_long`: what a stored value comes to.
-/

namespace RoamTuning

/-- The classes of weights. Model of `FrequencyWeight`. -/
inductive WeightClass where
  | low
  | high
deriving DecidableEq, Repr

namespace WeightClass

/-- The text that names a class. -/
def text : WeightClass → String
  | low => "low"
  | high => "high"

/-- The class that a text names. -/
def ofText? (s : String) : Option WeightClass :=
  if s = low.text then some low else if s = high.text then some high else none

/-- The class that a value names; only a text does. -/
def ofValue? : Value → Option WeightClass
  | .text s => ofText? s
  | _ => none

/-- What a class adds to a score. -/
def score : WeightClass → Int
  | low => -40
  | high => 40

theorem ofText?_text (c : WeightClass) : ofText? c.text = some c := by
  cases c <;> decide

end WeightClass

/-- Values stored for frequencies in MHz. Model of `FrequencyWeightTable`. -/
abbrev WeightTable := Table Int Value

namespace WeightTable

/-- The score of a frequency without a weight. -/
def neutralScore : Int := 0

/-- The score that a stored value gives a frequency. Both have to be written if
    the value is no class. -/
def scoreOfStored {ε : Type} [Numeral.Limited ε] (frequency : Except ε String) (v : Value) :
    Logged ε Int :=
  match WeightClass.ofValue? v with
  | some c => return c.score
  | none => do
    let stored ← Logged.ofExcept v.tryShown
    let written ← Logged.ofExcept frequency
    Logged.note .error
      ("Invalid frequency weight type " ++ stored ++ " for " ++ written ++ " MHz")
    return neutralScore

/-- The score of a frequency. Model of `get_score`. -/
def score {ε : Type} [Numeral.Limited ε] (t : WeightTable) (frequency : Int) : Logged ε Int :=
  match t.get? frequency with
  | none => return neutralScore
  | some v => scoreOfStored (Numeral.tryText frequency) v

/-- The entries in order of frequency. Model of `to_dict`. -/
def sorted (t : WeightTable) : List (Int × Value) :=
  t.entries.mergeSort fun a b => a.1 ≤ b.1

section Score

variable {ε : Type} [Numeral.Limited ε] {t : WeightTable} {frequency : Int}

theorem score_of_absent (h : t.get? frequency = none) :
    (t.score frequency : Logged ε Int) = pure neutralScore := by
  simp [score, h]

variable {v : Value}

theorem score_of_class (h : t.get? frequency = some v) {c : WeightClass}
    (named : WeightClass.ofValue? v = some c) :
    (t.score frequency : Logged ε Int) = pure c.score := by
  simp only [score, h, scoreOfStored, named]

/-- A stored value that is no class is logged if everything about it can be written, -/
theorem score_of_short (h : t.get? frequency = some v) (unknown : WeightClass.ofValue? v = none)
    (stored : v.isShort = true) (short : Numeral.IsShort frequency) :
    (t.score frequency : Logged ε Int)
      = ⟨[⟨.error, "Invalid frequency weight type " ++ v.shown ++ " for "
          ++ Numeral.text frequency ++ " MHz"⟩], .ok neutralScore⟩ := by
  simp only [score, h, scoreOfStored, unknown, Value.tryShown, Numeral.tryText,
    Numeral.writeIf_of_short stored, Numeral.writeIf_of_short short]
  rfl

/-- and the look-up fails if it cannot. -/
theorem score_of_long (h : t.get? frequency = some v) (unknown : WeightClass.ofValue? v = none)
    (long : ¬ (v.isShort = true ∧ Numeral.IsShort frequency)) :
    (t.score frequency : Logged ε Int) = Logged.fail Numeral.Limited.unwritable := by
  simp only [score, h, scoreOfStored, unknown, Value.tryShown, Numeral.tryText]
  by_cases stored : v.isShort = true
  · have frequencyLong : ¬ Numeral.IsShort frequency := fun short => long ⟨stored, short⟩
    rw [Numeral.writeIf_of_short stored, Numeral.writeIf_of_long frequencyLong]
    rfl
  · rw [Numeral.writeIf_of_long stored]
    rfl

end Score

theorem get?_ofPairs_eq_last (ps : List (Int × Value)) (frequency : Int) :
    (Table.ofPairs ps : WeightTable).get? frequency
      = (ps.findRev? fun p => p.1 = frequency).map (·.2) :=
  Table.get?_ofPairs ps frequency

end WeightTable

end RoamTuning
