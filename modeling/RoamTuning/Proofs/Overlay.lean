import Mathlib.Data.List.Basic
import RoamTuning.Defaults

/-!
# Defaults laid over the built-in set

Loading asks a source one question after the other, the same ones in the same order
whatever is answered, and each answer decides about one value and one record only. So a
load is told by its questions: the set has the usable answers over the built-in values,
the log has a record for each of the others, and a source that breaks ends the load
where it breaks.

Results:

* `asking_of_answers`, `asking_of_breaks`: what is logged of questions in a row.
* `loadOverlay_eq`: loading asks the questions, and then has the overlay.
* `shaped_overlay`: the overlay has complete arrays, so it is read back as it is.
* `loadSet_overlay`: which set is loaded, and what is logged.
-/

namespace RoamTuning

/-! ## Questions -/

/-- A question for a default, with the built-in value that stands if the source has none. -/
inductive Question where
  | integer (name : String) (builtIn : Int)
  | truth (name : String) (builtIn : Bool)
deriving DecidableEq, Repr

namespace Question

def name : Question → String
  | integer name _ => name
  | truth name _ => name

def builtIn : Question → Value
  | integer _ n => .int n
  | truth _ b => .bool b

/-- What kind of value is asked for. -/
def wanted : Question → String
  | integer _ _ => "int"
  | truth _ _ => "bool"

/-- Whether a value is of the kind that is asked for. A truth value is no integer. -/
def takes : Question → Value → Bool
  | integer _ _, .int _ => true
  | truth _ _, .bool _ => true
  | _, _ => false

/-- What is logged of an answer, unless it is used or the source is broken. -/
def record? (q : Question) : Answer → Option Record
  | .value v =>
    if q.takes v then none
    else some ⟨.warning, "Unusable platform default for " ++ q.name ++ ": expected " ++ q.wanted
      ++ ", got " ++ v.shown⟩
  | .absent _ =>
    some ⟨.debug, "No platform default for " ++ q.name ++ ", using " ++ q.builtIn.shown⟩
  | .wrongKind m => some ⟨.warning, "Unusable platform default for " ++ q.name ++ ": " ++ m⟩
  | .wrongValue m => some ⟨.warning, "Unusable platform default for " ++ q.name ++ ": " ++ m⟩
  | .broken _ => none

end Question

/-- Whether the source works that gives an answer. -/
def Answer.works : Answer → Except LoadError Unit
  | .broken m => .error (.broken m)
  | _ => .ok ()

namespace Source

variable {source : Source}

def answer (source : Source) : Question → Answer
  | .integer name _ => source.integer name
  | .truth name _ => source.truth name

/-- Whether a source answers a question, if only that it has no default. -/
def Answers (source : Source) (q : Question) : Prop := (source.answer q).works = .ok ()

instance (q : Question) : Decidable (source.Answers q) :=
  inferInstanceAs (Decidable ((source.answer q).works = .ok ()))

/-- What is logged of the answers to some questions. -/
def records (source : Source) (qs : List Question) : List Record :=
  qs.filterMap fun q => q.record? (source.answer q)

/-- Asks one question. -/
def ask (source : Source) (q : Question) : Logged LoadError Unit :=
  ⟨(q.record? (source.answer q)).toList, (source.answer q).works⟩

/-- Asks questions in a row, until one breaks the source. -/
def asking (source : Source) (qs : List Question) : Logged LoadError Unit :=
  forM qs source.ask

theorem asking_nil (source : Source) : source.asking [] = pure () := List.forM_nil

theorem asking_cons (source : Source) (q : Question) (qs : List Question) :
    source.asking (q :: qs) = source.ask q >>= fun _ => source.asking qs := List.forM_cons

theorem asking_append (source : Source) (qs rs : List Question) :
    source.asking (qs ++ rs) = source.asking qs >>= fun _ => source.asking rs := List.forM_append

/-- Questions that are all answered leave the records of their answers. -/
theorem asking_of_answers {qs : List Question} (answers : ∀ q ∈ qs, source.Answers q) :
    source.asking qs = ⟨source.records qs, .ok ()⟩ := by
  induction qs with
  | nil => rfl
  | cons q r ih =>
    rw [List.forall_mem_cons] at answers
    rw [asking_cons, Logged.bind_of_ok _ (show (source.ask q).outcome = .ok () from answers.1),
      ih answers.2, ask, records, records, List.filterMap_cons]
    cases q.record? (source.answer q) <;> rfl

/-- Questions that can be asked in a row are all answered. -/
theorem answers_of_asking {qs : List Question} (h : (source.asking qs).outcome = .ok ()) :
    ∀ q ∈ qs, source.Answers q := by
  induction qs with
  | nil => simp
  | cons q r ih =>
    rw [asking_cons, Logged.outcome_bind_eq_ok_iff] at h
    obtain ⟨_, first, rest⟩ := h
    exact List.forall_mem_cons.2 ⟨first, ih rest⟩

theorem answers_of_not_broken {q : Question} (h : ∀ m, source.answer q ≠ .broken m) :
    source.Answers q := by
  rw [Answers]
  cases answer : source.answer q with
  | broken m => exact absurd answer (h m)
  | _ => rfl

/-- The first question that breaks a source is the last one that is asked. -/
theorem asking_of_breaks {before after : List Question} {q : Question} {m : String}
    (answers : ∀ p ∈ before, source.Answers p) (breaks : source.answer q = .broken m) :
    source.asking (before ++ q :: after) = ⟨source.records before, .error (.broken m)⟩ := by
  have last : source.asking (q :: after) = ⟨[], .error (.broken m)⟩ := by
    rw [asking_cons, ask, breaks]
    rfl
  rw [asking_append, asking_of_answers answers, last, Logged.bind_of_ok _ rfl, List.append_nil]

/-! ## The overlay -/

/-- The integer that a source has for a name, or else the built-in one. -/
def integerOr (source : Source) (name : String) (builtIn : Int) : Int :=
  match source.integer name with
  | .value (.int n) => n
  | _ => builtIn

/-- The truth value that a source has for a name, or else the built-in one. -/
def truthOr (source : Source) (name : String) (builtIn : Bool) : Bool :=
  match source.truth name with
  | .value (.bool b) => b
  | _ => builtIn

end Source

/-- The names of the four thresholds of a band. -/
def Band.thresholdNames (b : Band) : List String :=
  ["bad", "entry", "low", "good"].map fun tier =>
    "score_" ++ tier ++ "_rssi_threshold_" ++ b.resourceSuffix

def thresholdQuestions (b : Band) : List Question :=
  List.zipWith .integer b.thresholdNames (ParamSet.builtIn.rssi b)

def constantQuestion (c : Constant) : Question :=
  .integer c.resource (ParamSet.builtIn.constant c)

/-- Everything that a source is asked for, in this order. -/
def questions : List Question :=
  Band.all.flatMap thresholdQuestions
    ++ [.integer activeRateResource (builtInRate 1), .integer highRateResource (builtInRate 2)]
    ++ Constant.all.map constantQuestion
    ++ [.truth beaconBoostResource true]

namespace Source

/-- The thresholds of a band that are laid over the built-in ones. -/
def thresholds (source : Source) (b : Band) : List Int :=
  List.zipWith source.integerOr b.thresholdNames (ParamSet.builtIn.rssi b)

theorem length_thresholds (source : Source) (b : Band) : (source.thresholds b).length = 4 := by
  rw [thresholds, List.length_zipWith]
  cases b <;> rfl

/-- The usable answers of a source over the built-in set. No source is asked for the
    packet rate of idle traffic, the horizon, the nud and the experiment. -/
def overlay (source : Source) : IntParams where
  tunables := { ParamSet.builtIn.tunables with
    rssi24 := source.thresholds .ghz24
    rssi5 := source.thresholds .ghz5
    rssi6 := source.thresholds .ghz6
    packetRates := [builtInRate 0, source.integerOr activeRateResource (builtInRate 1),
      source.integerOr highRateResource (builtInRate 2)] }
  platform := .ofFn (fun c => source.integerOr c.resource (ParamSet.builtIn.constant c))
    (.bool (source.truthOr beaconBoostResource true))

end Source

/-! ## Loading by questions -/

section Loading

variable (source : Source)

theorem readInteger_eq (name : String) (n : Int) :
    readInteger source name n
      = source.ask (.integer name n) >>= fun _ => pure (source.integerOr name n) := by
  simp only [readInteger, Source.ask, Source.answer, Source.integerOr]
  cases source.integer name with
  | value v => cases v <;> rfl
  | _ => rfl

theorem readTruth_eq (name : String) (b : Bool) :
    readTruth source name (.bool b)
      = source.ask (.truth name b) >>= fun _ => pure (.bool (source.truthOr name b)) := by
  simp only [readTruth, Source.ask, Source.answer, Source.truthOr]
  cases source.truth name with
  | value v => cases v <;> rfl
  | _ => rfl

theorem loadBand_eq (b : Band) :
    loadBand (some source) b ParamSet.builtIn
      = source.asking (thresholdQuestions b) >>= fun _ => pure (source.thresholds b) := by
  obtain ⟨w, x, y, z, four⟩ : ∃ w x y z, ParamSet.builtIn.rssi b = [w, x, y, z] := by
    cases b <;> exact ⟨_, _, _, _, rfl⟩
  have start : loadBand (some source) b ParamSet.builtIn = loadThresholds source b 0 [w, x, y, z] :=
    congrArg (loadThresholds source b 0) four
  rw [start, thresholdQuestions, Source.thresholds, four]
  -- there are as many names as thresholds, so the walk over them is written out
  simp only [loadThresholds, rssiResource?, tierResource?, Option.map_some, readInteger_eq,
    Band.thresholdNames, List.map_cons, List.zipWith_cons_cons, Source.asking_cons, bind_assoc,
    pure_bind]
  rfl

/-- A band has four thresholds, whatever its source says. -/
theorem length_loadBand {source : Option Source} {b : Band} {ns : List Int}
    (h : (loadBand source b ParamSet.builtIn).outcome = .ok ns) : ns.length = 4 := by
  cases source with
  | none =>
    obtain rfl := Except.ok.inj h
    cases b <;> rfl
  | some s =>
    rw [loadBand_eq, Logged.outcome_bind_eq_ok_iff] at h
    obtain ⟨-, -, h⟩ := h
    obtain rfl := Except.ok.inj h
    exact s.length_thresholds b

theorem loadConstants_eq (cs : List Constant) :
    loadConstants source cs = source.asking (cs.map constantQuestion) >>= fun _ =>
      pure fun d => if d ∈ cs then source.integerOr d.resource (ParamSet.builtIn.constant d)
        else ParamSet.builtIn.constant d := by
  induction cs with
  | nil => rfl
  | cons c r ih =>
    have chosen : (fun d => if d = c then source.integerOr c.resource (ParamSet.builtIn.constant c)
          else if d ∈ r then source.integerOr d.resource (ParamSet.builtIn.constant d)
          else ParamSet.builtIn.constant d)
        = fun d => if d ∈ c :: r then source.integerOr d.resource (ParamSet.builtIn.constant d)
          else ParamSet.builtIn.constant d := by
      funext d
      by_cases same : d = c
      · rw [if_pos same, if_pos (List.mem_cons.2 (.inl same)), same]
      · simp only [same, if_false, List.mem_cons, false_or]
    rw [loadConstants, readInteger_eq, ih, List.map_cons, Source.asking_cons]
    simp only [bind_assoc, pure_bind, chosen, constantQuestion]

/-- **Loading asks the questions, and then has the overlay.** -/
theorem loadOverlay_eq :
    loadOverlay source = source.asking questions >>= fun _ => pure source.overlay := by
  have every : ∀ c, c ∈ Constant.all := fun c => by cases c <;> decide
  have flag : ParamSet.builtIn.platform.beaconBoost6GHz = .bool true := rfl
  rw [loadOverlay]
  simp only [loadBand_eq, readInteger_eq, loadConstants_eq, flag, readTruth_eq, questions,
    Source.asking_append, Source.asking_cons, Source.asking_nil, Band.all, List.flatMap_cons,
    List.flatMap_nil, List.append_nil, bind_assoc, pure_bind, every, if_true, Source.overlay]

/-- What is logged of an overlay that is not used. -/
def inconsistency (d : Defect) : Record :=
  ⟨.error, "Inconsistent platform scoring defaults (" ++ d.message ++ "), using built-in defaults"⟩

/-- The arrays of an overlay are complete. -/
theorem shaped_overlay : source.overlay.Shaped := by
  intro k
  cases k with
  | rssi24 => exact source.length_thresholds .ghz24
  | rssi5 => exact source.length_thresholds .ghz5
  | rssi6 => exact source.length_thresholds .ghz6
  | packetRates => rfl

/-- An overlay is used if it passes the checks. -/
theorem loadSet_eq :
    loadSet (some source) = source.asking questions >>= fun _ =>
      match source.overlay.check with
      | .ok () => pure source.overlay
      | .error d => ⟨[inconsistency d], .ok ParamSet.builtIn⟩ := by
  have whole : consistent source.overlay = source.overlay.validated.mapError .invalid :=
    consistent_of_shaped (shaped_overlay source) rfl
  simp only [loadSet, loadOverlay_eq, bind_assoc, pure_bind, whole, ParamSet.validated]
  cases source.overlay.check <;> rfl

/-- **What is loaded from a source.** It is asked for thirty defaults, each of them once,
    and what it answers is laid over the built-in set where it is of the wanted kind. The
    overlay is read back as it is, and loaded if it passes the checks; otherwise the
    built-in set is loaded in its place. The log has what is said of the answers, in the
    order of the questions, and at its end why an overlay was not used. There is no set
    exactly if a question breaks the source, and the log then ends before it. -/
theorem loadSet_overlay :
    (questions.length = 30 ∧ (questions.map Question.name).Nodup)
      ∧ ParamSet.ofMembers source.overlay.members = .ok source.overlay
      ∧ ((∀ q ∈ questions, source.Answers q) →
        (source.overlay.check = .ok () →
          loadSet (some source) = ⟨source.records questions, .ok source.overlay⟩)
        ∧ ∀ d, source.overlay.check = .error d →
          loadSet (some source)
            = ⟨source.records questions ++ [inconsistency d], .ok ParamSet.builtIn⟩)
      ∧ (∀ before q after m, questions = before ++ q :: after →
        (∀ p ∈ before, source.Answers p) → source.answer q = .broken m →
          loadSet (some source) = ⟨source.records before, .error (.broken m)⟩)
      ∧ ((∃ e, (loadSet (some source)).outcome = .error e)
        ↔ ∃ q ∈ questions, ∃ m, source.answer q = .broken m) := by
  have reread := ParamSet.ofMembers_members (shaped_overlay source) rfl
  refine ⟨by decide +kernel, reread, ?_, ?_, ?_⟩
  · intro answers
    rw [loadSet_eq, Source.asking_of_answers answers, Logged.bind_of_ok _ rfl]
    refine ⟨fun valid => ?_, fun d invalid => ?_⟩
    · rw [valid, Logged.pure_eq, List.append_nil]
    · rw [invalid]
  · intro before q after m split answers breaks
    rw [loadSet_eq, split, Source.asking_of_breaks answers breaks, Logged.bind_of_error _ rfl]
  · constructor
    · rintro ⟨e, failed⟩
      by_contra none
      have answers : ∀ q ∈ questions, source.Answers q := fun q hq =>
        Source.answers_of_not_broken fun m breaks => none ⟨q, hq, m, breaks⟩
      rw [loadSet_eq, Source.asking_of_answers answers, Logged.bind_of_ok _ rfl] at failed
      cases check : source.overlay.check <;> rw [check] at failed <;> cases failed
    · rintro ⟨q, hq, m, breaks⟩
      cases outcome : (loadSet (some source)).outcome with
      | error e => exact ⟨e, rfl⟩
      | ok p =>
        rw [loadSet_eq, Logged.outcome_bind_eq_ok_iff] at outcome
        obtain ⟨_, asked, -⟩ := outcome
        have answers := Source.answers_of_asking asked q hq
        rw [Source.Answers, breaks] at answers
        cases answers

end Loading

example : questions.map Question.name = [
    "score_bad_rssi_threshold_24ghz", "score_entry_rssi_threshold_24ghz",
    "score_low_rssi_threshold_24ghz", "score_good_rssi_threshold_24ghz",
    "score_bad_rssi_threshold_5ghz", "score_entry_rssi_threshold_5ghz",
    "score_low_rssi_threshold_5ghz", "score_good_rssi_threshold_5ghz",
    "score_bad_rssi_threshold_6ghz", "score_entry_rssi_threshold_6ghz",
    "score_low_rssi_threshold_6ghz", "score_good_rssi_threshold_6ghz",
    "min_packet_per_second_active_traffic", "min_packet_per_second_high_traffic",
    "throughput_bonus_numerator", "throughput_bonus_denominator",
    "throughput_bonus_numerator_after_800mbps", "throughput_bonus_denominator_after_800mbps",
    "throughput_bonus_limit", "saved_network_bonus", "unmetered_network_bonus",
    "current_network_bonus_min", "current_network_bonus_percent", "secure_network_bonus",
    "band_6ghz_bonus", "scoring_bucket_step_size", "last_selection_minutes",
    "last_metered_selection_minutes", "estimate_rssi_error_margin_db",
    "enable_6ghz_beacon_rssi_boost"] := by decide +kernel

/-- A source with two defaults of the wanted kind and two that cannot be used. -/
def patchySource : Source := .ofAnswers (Table.ofPairs [
  ("score_good_rssi_threshold_24ghz", .value (.int (-50))),
  ("min_packet_per_second_active_traffic", .wrongValue "unreadable"),
  ("saved_network_bonus", .value (.bool true)),
  ("enable_6ghz_beacon_rssi_boost", .value (.bool false))])

/-- A source that breaks after the thresholds. -/
def brittleSource : Source := .ofAnswers (Table.ofPairs [
  ("min_packet_per_second_active_traffic", .broken "offline")])

/-- What is loaded where some defaults cannot be used, and where the source breaks. -/
theorem loadSet_overlay_patchy :
    (loadSet (some patchySource)).outcome = .ok patchySource.overlay
      ∧ patchySource.overlay.rssi .ghz24 = [-83, -80, -73, -50]
      ∧ patchySource.overlay.platform.beaconBoost6GHz = .bool false
      ∧ (loadSet (some patchySource)).log.filter (·.level ≠ .debug) = [
        ⟨.warning, "Unusable platform default for min_packet_per_second_active_traffic: unreadable"⟩,
        ⟨.warning, "Unusable platform default for saved_network_bonus: expected int, got True"⟩]
      ∧ loadSet (some brittleSource)
        = ⟨brittleSource.records (questions.take 12), .error (.broken "offline")⟩ := by
  obtain ⟨-, -, answered, -, -⟩ := loadSet_overlay patchySource
  obtain ⟨-, -, -, broken, -⟩ := loadSet_overlay brittleSource
  have loaded := (answered (by decide +kernel)).1 (by decide +kernel)
  rw [loaded]
  refine ⟨rfl, by decide +kernel, by decide +kernel, by decide +kernel, ?_⟩
  exact broken (questions.take 12) (.integer activeRateResource 1) (questions.drop 13) "offline"
    (by decide +kernel) (by decide +kernel) (by rfl)

end RoamTuning
