import RoamTuning.Proofs.Sessions

/-!
# Stores that start from given sets

A given set passes the checks whatever the lengths of its arrays are, as long as the
elements that it has are in the domain. Readers ask for elements at fixed positions,
so they get an answer about every frequency that can be written exactly if every array is
long enough for that. This is kept by all that can happen to the store: new arrays of an
override are as long as those that they replace, and new thresholds of a band are complete.

Results:

* `length_array_of_requested`: how long the arrays of a derived set are.
* `legible_iff`: when no reading fails.
* `legible_of_build`: when no reading fails in a session of a store that starts from a
  given set.
-/

namespace RoamTuning

/-! ## Arrays that are long enough -/

/-- Whether every array has the elements that readers ask for, and perhaps others after
    them. -/
def ParamSet.LongEnough (p : IntParams) : Prop := ∀ k, k.size ≤ (p.array k).length

instance (p : IntParams) : Decidable p.LongEnough :=
  decidable_of_iff (∀ k ∈ ArrayKey.all, k.size ≤ (p.array k).length)
    ⟨fun h k => h k (by cases k <;> decide), fun h k _ => h k⟩

/-- Override text leaves every array as long as it is. -/
theorem Override.length_array_of_parse {text : String} {base p : IntParams}
    (h : parse text base = .ok p) (k : ArrayKey) : (p.array k).length = (base.array k).length := by
  have applied := applied_of_parse h
  by_cases given : ∃ v, Gives text k.name v
  · obtain ⟨v, given⟩ := given
    have tunable : ParamSet.Field.array k ∈ ParamSet.Field.tunable := by cases k <;> decide
    obtain ⟨ns, spelled, length⟩ := (readable_of_parse h).fits (.array k) tunable v given
    rw [(applied.array_given k v given).unique spelled]
    exact length
  · rw [applied.array_kept k (not_exists.1 given)]

namespace Store

/-- An array of a derived set is as long as before, or complete. -/
theorem length_array_of_requested {derive : Derivation Int (List Int)}
    (requested : Requested derive) {base p : IntParams} (h : derive base = .ok p) (k : ArrayKey) :
    (p.array k).length = (base.array k).length ∨ (p.array k).length = k.size := by
  cases requested with
  | text text => exact .inl (Override.length_array_of_parse h k)
  | @thresholds b ns four =>
    obtain rfl := Except.ok.inj h
    have array : (base.setRssi b ns).array k = if k = b.key then ns else base.array k :=
      Tunables.array_setArray _ _ _ _
    show ((base.setRssi b ns).array k).length = _ ∨ ((base.setRssi b ns).array k).length = _
    rw [array]
    split
    · rename_i own
      right
      rw [own, four]
      cases b <;> rfl
    · exact .inl rfl

/-- No write makes an array too short. -/
theorem longEnough_invariant : Invariant Requested ParamSet.LongEnough where
  requested := id
  kept := by
    intro derive base p requested long derived k
    have enough := long k
    rcases length_array_of_requested requested (derive_of_candidate derived) k with same | complete
    · omega
    · omega

/-! ## Readings that do not fail -/

/-- Whether no reading of a store fails: the thresholds of any frequency that can be
    written, as an array and one at a time, and every single parameter. -/
structure Legible (s : IntStore) : Prop where
  arrays : ∀ frequency : Int, Numeral.IsShort frequency →
    ∃ ns, (s.rssiFor frequency : Logged Fault (List Int)).outcome = .ok ns
  thresholds : ∀ t (frequency : Int), Numeral.IsShort frequency →
    ∃ n, (s.threshold t frequency).outcome = .ok n
  single : ∀ r, ∃ v, s.read r = .ok v

theorem item_eq_ok_iff {ns : List Int} {index : Nat} {n : Int} :
    Row.item ns index = .ok n ↔ ns[index]? = some n := by
  cases found : ns[index]? with
  | none => simp [Row.item, found]
  | some m => simp [Row.item, found]

theorem exists_item_iff {ns : List Int} {index : Nat} :
    (∃ n, Row.item ns index = .ok n) ↔ index < ns.length := by
  simp only [item_eq_ok_iff]
  constructor
  · rintro ⟨n, found⟩
    exact (List.getElem?_eq_some_iff.1 found).1
  · intro bound
    exact ⟨ns[index], List.getElem?_eq_getElem bound⟩

/-- A threshold is found if the array of its band is long enough for it. -/
theorem exists_threshold_iff (s : IntStore) (t : Tier) {frequency : Int} {b : Band}
    (h : (Band.forFrequency frequency : Logged Fault Band).outcome = .ok b) :
    (∃ n, (s.threshold t frequency).outcome = .ok n)
      ↔ t.index < (s.active.params.rssi b).length := by
  have found := outcome_rssiFor s h
  rw [threshold_of_rssiFor, Logged.bind_of_ok _ found, ← exists_item_iff]
  show (∃ n, (Row.item (s.active.params.rssi b) t.index).mapError Fault.unfit = .ok n) ↔ _
  simp only [Outcome.mapError_eq_ok_iff]

/-- A packet rate is found if the array is long enough for it. -/
theorem exists_rate_iff (ns : List Int) (index : Nat) :
    (∃ v, (Row.item ns index).map Quantity.value = .ok v) ↔ index < ns.length := by
  rw [← exists_item_iff]
  cases Row.item ns index with
  | error m => simp [Except.map]
  | ok n => simp [Except.map]

/-- Every band has frequencies. -/
theorem exists_frequency (b : Band) : ∃ frequency, Band.classify frequency = some b := by
  cases b with
  | ghz24 => exact ⟨2412, rfl⟩
  | ghz5 => exact ⟨5160, rfl⟩
  | ghz6 => exact ⟨5955, rfl⟩

theorem forFrequency_of_classify {ε : Type} [Numeral.Limited ε] {frequency : Int} {b : Band}
    (h : Band.classify frequency = some b) :
    (Band.forFrequency frequency : Logged ε Band).outcome = .ok b := by
  rw [Band.forFrequency, h]
  rfl

/-- No reading fails exactly if every array is long enough. -/
theorem legible_iff (s : IntStore) : s.Legible ↔ s.active.params.LongEnough := by
  constructor
  · intro h
    have thresholds : ∀ b : Band, 4 ≤ (s.active.params.rssi b).length := by
      intro b
      obtain ⟨frequency, found⟩ := exists_frequency b
      exact (exists_threshold_iff s .good (forFrequency_of_classify found)).1
        (h.thresholds .good frequency (Band.isShort_of_classify found))
    intro k
    cases k with
    | rssi24 => exact thresholds .ghz24
    | rssi5 => exact thresholds .ghz5
    | rssi6 => exact thresholds .ghz6
    | packetRates => exact (exists_rate_iff _ 2).1 (h.single .highTrafficRate)
  · intro long
    have rates : 3 ≤ s.active.params.tunables.packetRates.length := long .packetRates
    refine ⟨fun frequency short => ?_, fun t frequency short => ?_, fun r => ?_⟩
    · obtain ⟨b, found⟩ := Band.exists_forFrequency (ε := Fault) short
      exact ⟨_, outcome_rssiFor s found⟩
    · obtain ⟨b, found⟩ := Band.exists_forFrequency (ε := Fault) short
      have four : 4 ≤ (s.active.params.rssi b).length := by
        have enough := long b.key
        cases b <;> exact enough
      have last : t.index < 4 := by cases t <;> decide
      exact (exists_threshold_iff s t found).2 (Nat.lt_of_lt_of_le last four)
    · cases r with
      | scalar k => exact ⟨_, rfl⟩
      | activeTrafficRate => exact (exists_rate_iff _ 1).2 (by omega)
      | highTrafficRate => exact (exists_rate_iff _ 2).2 (by omega)
      | constant c => exact ⟨_, rfl⟩
      | beaconBoost6GHz => exact ⟨_, rfl⟩

/-! ## Given sets -/

/-- **When no reading fails of a store that starts from a given set** of integers with
    arrays of any lengths: at the start, and after every session, exactly if the arrays of
    the given set are long enough. -/
theorem legible_of_build {source : Option Source} {supported : Bool} {p : IntParams}
    {s : IntStore}
    (built : (build source supported (some p) : Logged Fault IntStore).outcome = .ok s) :
    (s.Legible ↔ p.LongEnough)
      ∧ ((∀ events, ((World.start s []).session events).store.Legible) ↔ p.LongEnough) := by
  obtain ⟨-, rfl⟩ := build_given_eq_ok_iff.1 built
  refine ⟨legible_iff _, fun h => (legible_iff _).1 (h []), fun long events => ?_⟩
  have start : (World.start ⟨source, supported, ⟨0, p⟩, Table.empty⟩ []).Keeps
      Requested ParamSet.LongEnough := ⟨long, by simp [World.start]⟩
  exact (legible_iff _).2 (longEnough_invariant.session start events).store

/-- A set with one more threshold of 2.4 GHz than readers ask for. -/
def ample : IntParams := ParamSet.builtIn.setRssi .ghz24 [-90, -83, -80, -73, -60]

/-- A session that sets other thresholds there, five as well. -/
def widening : List Event := [.operation (.write (.update (some "rssi2=-99:-90:-85:-75:-65")))]

theorem legible_of_ample :
    ∃ s : IntStore, (build none false (some ample) : Logged Fault IntStore).outcome = .ok s
      ∧ ((World.start s []).session widening).store.active.params.rssi .ghz24
        = [-99, -90, -85, -75, -65]
      ∧ ((World.start s []).session widening).store.Legible := by
  have inDomain : ample.InDomain := (ParamSet.check_eq_ok_iff _).1 (by decide +kernel)
  have built : (build none false (some ample) : Logged Fault IntStore).outcome
      = .ok ⟨none, false, ⟨0, ample⟩, Table.empty⟩ := build_given_eq_ok_iff.2 ⟨inDomain, rfl⟩
  exact ⟨_, built, by decide +kernel, (legible_of_build built).2.2 (by decide) widening⟩

/-- A set without the last threshold of 2.4 GHz. -/
def lacking : IntParams := ParamSet.builtIn.setRssi .ghz24 [-83, -80, -73]

/-- A store starts from it, and the reading of that threshold fails. So does the reading of a
    threshold that is there, for a frequency that is too long to be written. -/
theorem illegible_of_lacking :
    ∃ s : IntStore, (build none false (some lacking) : Logged Fault IntStore).outcome = .ok s
      ∧ (s.threshold .good 2412).outcome = .error (.unfit (.outOfRange "tuple"))
      ∧ (s.threshold .exit Numeral.leastLong).outcome
        = .error (.unfit (.numeral .unwritable)) := by
  have inDomain : lacking.InDomain := (ParamSet.check_eq_ok_iff _).1 (by decide +kernel)
  refine ⟨_, build_given_eq_ok_iff.2 ⟨inDomain, rfl⟩, rfl, ?_⟩
  rw [threshold_of_rssiFor, rssiFor_of_long _ Numeral.not_isShort_leastLong]
  rfl

end Store

end RoamTuning
