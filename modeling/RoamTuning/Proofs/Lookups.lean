import RoamTuning.Proofs.Numerals
import RoamTuning.Proofs.Readers
import RoamTuning.Proofs.Serving

/-!
# Looking up the thresholds of a frequency

The ranges of the three bands do not overlap, so a frequency lies in one band at most. A
frequency in none has the thresholds of 5 GHz, and whoever looks them up says so in the
log. The thresholds of a frequency are read in many ways: as an array, tier by tier, from
the active set, and by a request. All of them find the same band and the same four
numbers, and write the same records.

Results:

* `classify_eq_some_iff`: the band of a frequency is the one that it lies in.
* `forFrequency_eq`: which band's thresholds apply, and what is logged.
* `decode_thresholdsRequest`: the request that asks for the thresholds of an integer.
* `lookups_agree`: all the ways to read thresholds agree.
-/

namespace RoamTuning

/-! ## Bands and frequencies -/

namespace Band

/-- Whether a frequency lies in a band. -/
def holds : Band → Int → Bool
  | ghz24 => is24GHz
  | ghz5 => is5GHz
  | ghz6 => is6GHz

theorem holds_ghz24_iff {frequency : Int} :
    ghz24.holds frequency = true ↔ 2412 ≤ frequency ∧ frequency ≤ 2484 := by
  simp [holds, is24GHz]

theorem holds_ghz5_iff {frequency : Int} :
    ghz5.holds frequency = true ↔ 5160 ≤ frequency ∧ frequency ≤ 5885 := by
  simp [holds, is5GHz]

theorem holds_ghz6_iff {frequency : Int} :
    ghz6.holds frequency = true
      ↔ frequency = 5935 ∨ (5955 ≤ frequency ∧ frequency ≤ 7115) := by
  simp [holds, is6GHz]

/-- No frequency lies in two bands. -/
theorem eq_of_holds {frequency : Int} {b c : Band} (hb : b.holds frequency = true)
    (hc : c.holds frequency = true) : b = c := by
  cases b <;> cases c <;> first
    | rfl
    | (simp only [holds_ghz24_iff, holds_ghz5_iff, holds_ghz6_iff] at hb hc; omega)

/-- The band that a frequency belongs to is the one that it lies in. -/
theorem classify_eq_some_iff {frequency : Int} {b : Band} :
    classify frequency = some b ↔ b.holds frequency = true := by
  constructor
  · intro h
    unfold classify at h
    split at h
    · obtain rfl := Option.some.inj h
      assumption
    · split at h
      · obtain rfl := Option.some.inj h
        assumption
      · split at h
        · obtain rfl := Option.some.inj h
          assumption
        · cases h
  · intro hb
    have other : ∀ c : Band, c ≠ b → c.holds frequency = false := fun c different =>
      Bool.eq_false_iff.2 fun hc => different (eq_of_holds hc hb)
    cases b with
    | ghz24 => exact if_pos hb
    | ghz5 =>
      have low : is24GHz frequency = false := other ghz24 (by decide)
      rw [classify, if_neg (by simp [low])]
      exact if_pos hb
    | ghz6 =>
      have low : is24GHz frequency = false := other ghz24 (by decide)
      have mid : is5GHz frequency = false := other ghz5 (by decide)
      rw [classify, if_neg (by simp [low]), if_neg (by simp [mid])]
      exact if_pos hb

theorem classify_eq_none_iff_holds {frequency : Int} :
    classify frequency = none ↔ ∀ b : Band, b.holds frequency = false := by
  rw [classify_eq_none_iff]
  constructor
  · rintro ⟨low, mid, high⟩ b
    cases b
    · exact low
    · exact mid
    · exact high
  · intro h
    exact ⟨h ghz24, h ghz5, h ghz6⟩

/-- Whether the thresholds of a band apply to a frequency: it lies in the band, or in
    none and the band is that of 5 GHz. -/
def AppliesTo (b : Band) (frequency : Int) : Prop :=
  b.holds frequency = true ∨ (b = ghz5 ∧ ∀ c : Band, c.holds frequency = false)

theorem exists_appliesTo (frequency : Int) : ∃ b : Band, b.AppliesTo frequency := by
  cases found : classify frequency with
  | some b => exact ⟨b, .inl (classify_eq_some_iff.1 found)⟩
  | none => exact ⟨ghz5, .inr ⟨rfl, classify_eq_none_iff_holds.1 found⟩⟩

/-- The records of a look-up of a frequency: an error if it lies in no band. -/
def lookupRecords (frequency : Int) : List Record :=
  if all.any fun b => b.holds frequency then []
  else
    [⟨.error, "Invalid frequency(" ++ Numeral.text frequency
      ++ "), using 5G as default rssi array"⟩]

theorem lookupRecords_of_holds {b : Band} {frequency : Int} (hb : b.holds frequency = true) :
    lookupRecords frequency = [] :=
  if_pos (List.any_eq_true.2 ⟨b, by cases b <;> decide, hb⟩)

theorem lookupRecords_of_outside {frequency : Int}
    (outside : ∀ b : Band, b.holds frequency = false) :
    lookupRecords frequency = [⟨.error, "Invalid frequency(" ++ Numeral.text frequency
      ++ "), using 5G as default rssi array"⟩] :=
  if_neg (by simp [outside])

/-- The band whose thresholds apply is found, and the records say if it is a makeshift. -/
theorem forFrequency_eq {ε : Type} [Numeral.Limited ε] {b : Band} {frequency : Int}
    (short : Numeral.IsShort frequency) (applies : b.AppliesTo frequency) :
    (forFrequency frequency : Logged ε Band) = ⟨lookupRecords frequency, .ok b⟩ := by
  rcases applies with hb | ⟨rfl, outside⟩
  · rw [forFrequency, classify_eq_some_iff.2 hb, lookupRecords_of_holds hb]
    rfl
  · rw [forFrequency, classify_eq_none_iff_holds.2 outside, lookupRecords_of_outside outside,
      Numeral.tryText, Numeral.writeIf_of_short short]
    rfl

end Band

/-- Four numbers are the thresholds of the tiers in order. -/
theorem Tier.exists_map_eq {ns : List Int} (four : ns.length = 4) :
    ∃ thresholds : Tier → Int, ns = Tier.all.map thresholds := by
  refine ⟨fun t => (ns[t.index]?).getD 0, ?_⟩
  obtain ⟨exit, entry, sufficient, good, rfl⟩ := List.length_eq_four.1 four
  rfl

/-! ## Paths with an integer -/

namespace Control

theorem itemAfter?_append {stem item : List Char} (nonempty : item ≠ []) (whole : '/' ∉ item) :
    itemAfter? stem (stem ++ item) = some (String.ofList item) := by
  have stems : stem.isPrefixOf (stem ++ item) = true :=
    List.isPrefixOf_iff_prefix.2 (List.prefix_append _ _)
  simp [itemAfter?, stems, nonempty, whole]

theorem itemAfter?_integer (stem : String) (n : Int) :
    itemAfter? stem.toList (stem.toList ++ (Numeral.text n).toList) = some (Numeral.text n) := by
  have nonempty : (Numeral.text n).toList ≠ [] := by
    rw [Numeral.text, String.toList_ofList]
    exact Numeral.chars_ne_nil n
  have whole : '/' ∉ (Numeral.text n).toList := by
    rw [Numeral.text, String.toList_ofList]
    intro slash
    rcases Numeral.mem_chars slash with minus | digit
    · exact absurd minus (by decide)
    · exact absurd digit (by decide)
  exact (itemAfter?_append nonempty whole).trans (congrArg some String.ofList_toList)

/-- A path with an integer at its end leads to the resource of its stem. -/
theorem routeOf_integerPath {stem : String} {resource : String → Resource}
    (known : (stem, resource) ∈ itemPaths) (allowed : ∀ item, (resource item).allows .get = true)
    (n : Int) :
    routeOf "GET" (stem ++ Numeral.text n) = .endpoint (resource (Numeral.text n)) .get := by
  have leads : resourceOf? (stem.toList ++ (Numeral.text n).toList)
      = some (resource (Numeral.text n)) := by
    have item := itemAfter?_integer stem n
    simp only [itemPaths, List.mem_cons, List.not_mem_nil, or_false, Prod.mk.injEq] at known
    -- no fixed path has a slash where the stems end, and no stem begins with another one
    rcases known with ⟨rfl, rfl⟩ | ⟨rfl, rfl⟩ | ⟨rfl, rfl⟩
    all_goals
      unfold resourceOf?
      simp only [itemPaths, List.findSome?_cons, item, Option.map_some]
      rfl
  have method : Method.ofName? "GET" = some .get := by decide
  simp only [routeOf, String.toList_append, leads, method, allowed, if_true]

/-- The reader of documents decodes the text of an integer, unless it is too long. -/
theorem decodeIntText_text (n : Int) : Value.decodeIntText (Numeral.text n)
    = if Numeral.IsShort n then .ok n else .error .intParsingSize := by
  rw [Value.decodeIntText, Numeral.text, String.toList_ofList, Numeral.readTidied_chars]
  split <;> rfl

/-- What a path with an integer is refused for: that it has too many digits. -/
def tooLongInPath (n : Int) : Refusal :=
  .invalid [⟨⟨.intParsingSize, pathPlace "frequency"⟩, .text (Json.codesOf (Numeral.text n)), []⟩]

theorem decodeFrequency_text {α : Type} (f : Int → α) (n : Int) :
    ((decodeFrequency (Numeral.text n)).map f).mapError .invalid
      = if Numeral.IsShort n then .ok (f n) else .error (tooLongInPath n) := by
  rw [decodeFrequency, decodeIntText_text]
  by_cases short : Numeral.IsShort n
  · rw [if_pos short, if_pos short]
    rfl
  · rw [if_neg short, if_neg short]
    rfl

/-! ## Requests for thresholds -/

/-- The path that asks for the thresholds of an item. -/
def thresholdsPath (item : String) : String := "/params/thresholds/" ++ item

/-- A request for the thresholds of an integer, whatever its body. -/
def thresholdsRequest (frequency : Int) (body : Option String) : Request :=
  ⟨"GET", thresholdsPath (Numeral.text frequency), body⟩

/-- An integer in few enough digits is asked for by its path. -/
theorem decode_thresholdsRequest {frequency : Int} (short : Numeral.IsShort frequency)
    (body : Option String) :
    (thresholdsRequest frequency body).decode = .ok (.thresholds frequency) := by
  have known : ("/params/thresholds/", Resource.thresholds) ∈ itemPaths := .head _
  have allowed : ∀ item, (Resource.thresholds item).allows .get = true := fun _ => rfl
  have route : routeOf "GET" (thresholdsPath (Numeral.text frequency)) = _ :=
    routeOf_integerPath known allowed frequency
  have call := decodeFrequency_text Call.thresholds frequency
  rw [if_pos short] at call
  rw [Request.decode, thresholdsRequest, route]
  exact call

/-- The reply with the thresholds of a frequency. -/
def thresholdsOf (frequency : Int) (b : Band) (thresholds : Tier → Int) : Reply :=
  okay ([("frequency", .int frequency), ("band", .text b.text)]
    ++ Tier.all.map fun t => (t.name, .int (thresholds t)))

/-- A request for thresholds is answered with those of the band that applies. -/
theorem serve_thresholds {s : IntStore} {frequency : Int} {b : Band} {records : List Record}
    {thresholds : Tier → Int}
    (found : (Band.forFrequency frequency : Logged ReplyError Band) = ⟨records, .ok b⟩)
    (array : s.active.params.rssi b = Tier.all.map thresholds) (setup : Setup)
    {r : Request} (asked : r.decode = .ok (.thresholds frequency)) :
    serve setup s r = ⟨s, records, thresholdsOf frequency b thresholds⟩ := by
  have reply : thresholdsReply s frequency
      = ⟨records, .ok (thresholdsOf frequency b thresholds)⟩ := by
    rw [thresholdsReply, found, Logged.bind_of_ok _ rfl, array]
    exact congrArg (Logged.mk · _) (List.append_nil records)
  rw [serve_of_decoded asked, perform, reply]
  rfl

end Control

/-! ## The readings of a store -/

namespace Store

open Control (Setup Request serve thresholdsRequest thresholdsOf)

/-- What the ways to read the thresholds of a frequency come to, if those of a band apply
    and these are its thresholds. -/
structure ReadsAs (s : IntStore) (frequency : Int) (b : Band) (thresholds : Tier → Int) : Prop where
  /-- The band is found, -/
  band : (Band.forFrequency frequency : Logged Fault Band)
    = ⟨Band.lookupRecords frequency, .ok b⟩
  /-- and the array of its thresholds, -/
  array : (s.rssiFor frequency : Logged Fault (List Int))
    = ⟨Band.lookupRecords frequency, .ok (Tier.all.map thresholds)⟩
  /-- also by way of the band and the active set, -/
  snapshot : (do let c ← Band.forFrequency frequency; return s.active.params.rssi c :
      Logged Fault (List Int))
    = ⟨Band.lookupRecords frequency, .ok (Tier.all.map thresholds)⟩
  /-- and tier by tier. -/
  tier : ∀ t, s.threshold t frequency = ⟨Band.lookupRecords frequency, .ok (thresholds t)⟩
  /-- A request is answered with them, and leaves the store; -/
  reply : ∀ setup (r : Request), r.decode = .ok (.thresholds frequency) →
    serve setup s r = ⟨s, Band.lookupRecords frequency, thresholdsOf frequency b thresholds⟩
  /-- the path with the frequency in decimal is such a request. -/
  asked : ∀ body, (thresholdsRequest frequency body).decode = .ok (.thresholds frequency)

theorem readsAs_of_appliesTo {s : IntStore} {frequency : Int} {b : Band} {thresholds : Tier → Int}
    (few : (Numeral.digits frequency.natAbs).length ≤ Numeral.digitLimit)
    (applies : b.AppliesTo frequency) (rssi : s.active.params.rssi b = Tier.all.map thresholds) :
    s.ReadsAs frequency b thresholds := by
  have array : (s.rssiFor frequency : Logged Fault (List Int))
      = ⟨Band.lookupRecords frequency, .ok (Tier.all.map thresholds)⟩ := by
    rw [rssiFor, rssiIn, Band.forFrequency_eq few applies, Logged.bind_of_ok _ rfl, rssi]
    exact congrArg (Logged.mk · _) (List.append_nil _)
  refine
    { band := Band.forFrequency_eq few applies, array, snapshot := array, tier := ?_
      reply := fun setup _ => Control.serve_thresholds (Band.forFrequency_eq few applies) rssi setup
      asked := Control.decode_thresholdsRequest few }
  intro t
  have item : (Tier.all.map thresholds)[t.index]? = some (thresholds t) := by
    cases t <;> rfl
  rw [threshold_of_rssiFor, array, Logged.bind_of_ok _ rfl]
  simp only [Logged.ofExcept, Row.item, item, Outcome.mapError_ok, List.append_nil]

/-- How a frequency is looked up in a store. -/
structure LookedUp (s : IntStore) (frequency : Int) : Prop where
  /-- It lies in one band at most, -/
  unique : ∀ b c : Band, b.holds frequency = true → c.holds frequency = true → b = c
  /-- which is the one that it is said to belong to. -/
  classified : ∀ b, Band.classify frequency = some b ↔ b.holds frequency = true
  /-- Whatever reads its thresholds finds the same four of one band: of the band that it
      lies in, or of 5 GHz if it lies in none. -/
  read : ∃ b thresholds, b.AppliesTo frequency
    ∧ s.active.params.rssi b = Tier.all.map thresholds ∧ s.ReadsAs frequency b thresholds
  /-- A look-up logs one error if it lies in no band, -/
  outside : (∀ b : Band, b.holds frequency = false) →
    ∃ message, Band.lookupRecords frequency = [⟨.error, message⟩]
  /-- and nothing otherwise. -/
  inside : ∀ b : Band, b.holds frequency = true → Band.lookupRecords frequency = []

/-- **All the ways to read the thresholds of a frequency agree**, in every store with
    complete arrays and for every frequency that can be written out. -/
theorem lookups_agree {s : IntStore} (shaped : s.active.params.Shaped) {frequency : Int}
    (few : (Numeral.digits frequency.natAbs).length ≤ Numeral.digitLimit) :
    s.LookedUp frequency := by
  refine
    { unique := fun _ _ => Band.eq_of_holds, classified := fun _ => Band.classify_eq_some_iff
      read := ?_, outside := fun outside => ⟨_, Band.lookupRecords_of_outside outside⟩
      inside := fun _ => Band.lookupRecords_of_holds }
  obtain ⟨b, applies⟩ := Band.exists_appliesTo frequency
  obtain ⟨thresholds, rssi⟩ := Tier.exists_map_eq (ParamSet.length_rssi shaped b)
  exact ⟨b, thresholds, applies, rssi, readsAs_of_appliesTo few applies rssi⟩

/-- The store that is built without a source, looked up between two bands. -/
theorem lookups_agree_between :
    unsourced.active.params.Shaped
      ∧ (Numeral.digits (Int.natAbs 5900)).length ≤ Numeral.digitLimit
      ∧ unsourced.LookedUp 5900 :=
  ⟨ParamSet.shaped_builtIn, by decide, lookups_agree ParamSet.shaped_builtIn (by decide)⟩

-- the single channel of 6 GHz below its main range, with the frequencies around it
example : [5934, 5935, 5936].map Band.classify = [none, some .ghz6, none] := rfl

end Store

end RoamTuning
