import RoamTuning.Proofs.Commits
import RoamTuning.Proofs.Lookups

/-!
# The scores of frequencies over time

Only a new table of weights changes the scores of a store: it replaces the old one as a
whole, and writes, disturbed commits, writers at work side by side, other answers of the
source and all other requests leave it. So the score of a frequency comes from its last
pair in the last table, whatever else has happened. A table that a request brings has
none but the two classes, and a look-up in it logs nothing.

A look-up of any other value is logged, so it fails where that value or the frequency is too
long to be written. The service does not even look up such a frequency.

Results:

* `continues_after`: the table of a store is the last one that was set.
* `start_eq_after`: a store that starts as settings say is a built one, perhaps updated.
* `decode_scoreRequest`: for which integers a request asks for a score.
* `scores_after`: the score of a frequency at every moment, and what its look-up logs.
* `unscored_leastLong`: where there is no score.
-/

namespace RoamTuning.Store

open Control (Setup Request serve okay)

variable {α ρ : Type} [Quantity α] [Row ρ α]

/-! ## What can occur -/

/-- What can occur to a store: an event of a session, or a request that is served. -/
inductive Occurrence where
  | event (e : Event)
  | request (setup : Setup) (r : Request)

/-- The table of weights that an operation sets, if it does. -/
def Operation.table? : Operation → Option (List (Int × Value))
  | .setWeights weights => some weights
  | _ => none

/-- The table of weights that an occurrence brings, if it does. -/
def Occurrence.table? : Occurrence → Option (List (Int × Value))
  | .event (.operation o) => o.table?
  | .event _ => none
  | .request _ r => r.operation?.bind Operation.table?

/-- Whether an occurrence is a request. -/
def Occurrence.IsRequest : Occurrence → Prop
  | .event _ => False
  | .request _ _ => True

/-- The tables that occurrences bring, in order. -/
def tables (os : List Occurrence) : List (List (Int × Value)) := os.filterMap Occurrence.table?

namespace World

/-- The world after an occurrence. -/
def occur (v : World α ρ) : Occurrence → World α ρ
  | .event e => v.happen e
  | .request setup r => { v with store := (serve setup v.store r).store }

/-- The world after occurrences. -/
def after (v : World α ρ) (os : List Occurrence) : World α ρ := os.foldl occur v

end World

/-! ## The table in force -/

/-- How one store comes from another as to scores: with a new table, or with the old one if
    there is none. Whether weights count stays the same. -/
structure Continues (table : Option (List (Int × Value))) (s t : Store α ρ) : Prop where
  weights : t.weights = table.elim s.weights Table.ofPairs
  supported : t.weightsSupported = s.weightsSupported

section Continues

omit [Quantity α] [Row ρ α]

variable {a b : Option (List (Int × Value))} {s t u : Store α ρ}

theorem Continues.refl (s : Store α ρ) : Continues none s s := ⟨rfl, rfl⟩

theorem Continues.trans (first : Continues a s t) (second : Continues b t u) :
    Continues (b.or a) s u where
  weights := by
    rw [second.weights, first.weights]
    cases b <;> rfl
  supported := second.supported.trans first.supported

theorem continues_installed (s : Store α ρ) (p : ParamSet α ρ) : Continues none s (s.installed p) :=
  ⟨rfl, rfl⟩

theorem continues_setWeights (s : Store α ρ) (weights : List (Int × Value)) :
    Continues (some weights) s (s.setWeights weights) := ⟨rfl, rfl⟩

end Continues

theorem continues_write (s : Store α ρ) (w : Write) : Continues none s (s.write w).1 := by
  rcases s.write_cases w with ⟨left, -⟩ | ⟨-, p, -, -, -, left, -⟩
  · rw [left]
    exact .refl s
  · rw [left]
    exact continues_installed s p

theorem continues_updates (s : Store α ρ) (ts : List (Option String)) :
    Continues none s (s.updates ts).1 := by
  induction ts generalizing s with
  | nil => exact .refl s
  | cons t r ih =>
    have first : Continues none s (s.update t).1 := continues_write s (.update t)
    simp only [updates]
    split
    · exact first
    · exact first.trans (ih _)

theorem continues_commitDuring (s : Store α ρ) (outer : String) (inner : List (Option String)) :
    Continues none s (s.commitDuring outer inner).1 := by
  have disturbed := s.continues_updates inner
  simp only [commitDuring, commitAfter]
  split
  · exact disturbed
  · rcases commitAmid_cases (Override.parse outer) s (s.updates inner).1 with
      ⟨p, -, left⟩ | ⟨r, -, left⟩
    · simp only [left]
      exact disturbed.trans (continues_installed _ p)
    · simp only [left]
      exact disturbed

theorem continues_apply (s : Store α ρ) (o : Operation) : Continues o.table? s (s.apply o) := by
  cases o with
  | write w => exact continues_write s w
  | commitDuring outer inner => exact continues_commitDuring s outer inner
  | setWeights weights => exact continues_setWeights s weights

theorem continues_step (v : World α ρ) (i : Nat) : Continues none v.store (v.step i).store := by
  cases found : v.writers[i]? with
  | none =>
    rw [World.step, found]
    exact .refl _
  | some w =>
    rw [World.step_of_found found]
    have steps := w.steps v.store
    generalize w.step v.store = next at steps ⊢
    cases steps with
    | swapped phase same => exact continues_installed v.store _
    | _ => exact .refl _

theorem continues_happen (v : World α ρ) (e : Event) :
    Continues (Occurrence.event e).table? v.store (v.happen e).store := by
  cases e with
  | operation o => exact continues_apply v.store o
  | enter w =>
    simp only [World.happen]
    split <;> exact .refl _
  | turn i => exact continues_step v i
  | answers source => exact ⟨rfl, rfl⟩

theorem continues_occur (v : World α ρ) (o : Occurrence) :
    Continues o.table? v.store (v.occur o).store := by
  cases o with
  | event e => exact continues_happen v e
  | request setup r =>
    simp only [World.occur, Occurrence.table?, Control.store_serve]
    cases r.operation? with
    | none => exact .refl _
    | some o => exact continues_apply v.store o

/-- **The table of a store is the last one that was set**, whatever else has occurred. -/
theorem continues_after (v : World α ρ) (os : List Occurrence) :
    Continues (tables os).getLast? v.store (v.after os).store := by
  induction os generalizing v with
  | nil => exact .refl _
  | cons o r ih =>
    have both := (continues_occur v o).trans (ih (v.occur o))
    have last : (tables (o :: r)).getLast? = (tables r).getLast?.or o.table? := by
      rw [tables, List.filterMap_cons]
      cases o.table? with
      | none => simp [tables]
      | some ps =>
        rw [List.getLast?_cons, tables]
        cases (r.filterMap Occurrence.table?).getLast? <;> rfl
    rw [last]
    exact both

/-! ## The pair that counts -/

/-- The value of a frequency in the last of some tables, from its last pair there. -/
def lastValue? (tables : List (List (Int × Value))) (frequency : Int) : Option Value :=
  tables.getLast?.bind fun ps => (ps.findRev? fun p => p.1 = frequency).map (·.2)

theorem get?_weights_after {s : Store α ρ} (fresh : s.weights = Table.empty)
    (os : List Occurrence) (frequency : Int) :
    ((World.start s []).after os).store.weights.get? frequency
      = lastValue? (tables os) frequency := by
  have continued := continues_after (World.start s []) os
  rw [continued.weights, lastValue?]
  cases (tables os).getLast? with
  | none =>
    show s.weights.get? frequency = none
    rw [fresh]
    rfl
  | some ps => exact WeightTable.get?_ofPairs_eq_last ps frequency

/-- A store that starts as settings say is one that was built, perhaps updated. -/
theorem start_eq_after {settings : Settings} {source : Option Source} {s : IntStore}
    (h : (start settings source).outcome = .ok s) :
    ∃ t supported os, (build source supported none : Logged Fault IntStore).outcome = .ok t
      ∧ s = ((World.start t []).after os).store := by
  obtain ⟨t, supported, built, rfl | ⟨text, rfl⟩⟩ := start_cases h
  · exact ⟨s, supported, [], built, rfl⟩
  · exact ⟨t, supported, [.event (.operation (.write (.update (some text))))], built, rfl⟩

/-! ## Scores -/

/-- What looking up the score of a frequency comes to: what is logged, and the score. A
    request for it is answered with the score and leaves the store. -/
structure ScoresAs (s : Store α ρ) (frequency : Int) (records : List Record) (n : Int) : Prop where
  score : (s.score frequency : Logged Fault Int) = ⟨records, .ok n⟩
  reply : ∀ setup (r : Request), r.decode = .ok (.score frequency) →
    serve setup s r = ⟨s, records, okay [("frequency", .int frequency), ("score", .int n)]⟩

/-- What looking up the score of a frequency comes to that cannot be logged: it fails, and
    logs nothing. A request for it ends in an internal error. -/
structure Unscored (s : Store α ρ) (frequency : Int) : Prop where
  score : (s.score frequency : Logged Fault Int) = Logged.fail Numeral.Limited.unwritable
  reply : ∀ setup (r : Request), r.decode = .ok (.score frequency) →
    serve setup s r = Control.unhandled setup s [] Numeral.Problem.unwritable.message

theorem scoresAs_of_score {s : Store α ρ} {frequency : Int} {records : List Record} {n : Int}
    (h : ∀ {ε : Type} [Numeral.Limited ε], (s.score frequency : Logged ε Int) = ⟨records, .ok n⟩) :
    s.ScoresAs frequency records n where
  score := h
  reply setup r asked := by
    have found : (s.score frequency).mapError Value.Misfit.message = ⟨records, .ok n⟩ := by
      rw [h]
      rfl
    rw [Control.serve_of_decoded asked, Control.perform, found, Logged.bind_of_ok _ rfl]
    show Control.Exchange.mk s (records ++ []) _ = _
    rw [List.append_nil]

theorem unscored_of_score {s : Store α ρ} {frequency : Int}
    (h : ∀ {ε : Type} [Numeral.Limited ε],
      (s.score frequency : Logged ε Int) = Logged.fail Numeral.Limited.unwritable) :
    s.Unscored frequency where
  score := h
  reply setup r asked := by
    have failed : (s.score frequency).mapError Value.Misfit.message
        = Logged.fail Numeral.Problem.unwritable.message := by
      rw [h]
      rfl
    rw [Control.serve_of_decoded asked, Control.perform, failed]
    rfl

/-- How the value that counts for a frequency decides its score. -/
structure ScoredBy (s : Store α ρ) (supported : Bool) (last : Option Value) (frequency : Int) :
    Prop where
  low : supported = true → last = some (.text "low") → s.ScoresAs frequency [] (-40)
  high : supported = true → last = some (.text "high") → s.ScoresAs frequency [] 40
  /-- Any other value scores nothing, and one error is logged, -/
  unknown : supported = true → ∀ v, last = some v → v ≠ .text "low" → v ≠ .text "high" →
    v.isShort = true → Numeral.IsShort frequency →
    ∃ message, s.ScoresAs frequency [⟨.error, message⟩] 0
  /-- unless it cannot be, because an integer is too long for that. -/
  overlong : supported = true → ∀ v, last = some v → v ≠ .text "low" → v ≠ .text "high" →
    ¬ (v.isShort = true ∧ Numeral.IsShort frequency) → s.Unscored frequency
  absent : supported = true → last = none → s.ScoresAs frequency [] 0
  /-- Without support every score is neutral. -/
  unsupported : supported = false → s.ScoresAs frequency [] 0

theorem ofValue?_eq_none {v : Value} (low : v ≠ .text "low") (high : v ≠ .text "high") :
    WeightClass.ofValue? v = none := by
  cases v with
  | text s =>
    have notLow : s ≠ "low" := fun e => low (e ▸ rfl)
    have notHigh : s ≠ "high" := fun e => high (e ▸ rfl)
    simp [WeightClass.ofValue?, WeightClass.ofText?, WeightClass.text, notLow, notHigh]
  | _ => rfl

theorem scoredBy_get? (s : Store α ρ) (frequency : Int) :
    s.ScoredBy s.weightsSupported (s.weights.get? frequency) frequency := by
  have supportedScore : s.weightsSupported = true → ∀ {ε : Type} [Numeral.Limited ε],
      (s.score frequency : Logged ε Int) = s.weights.score frequency := fun h => if_pos h
  have known : s.weightsSupported = true → ∀ c : WeightClass,
      s.weights.get? frequency = some (.text c.text) → s.ScoresAs frequency [] c.score := by
    intro h c found
    refine scoresAs_of_score fun {ε} _ => ?_
    exact (supportedScore h).trans (WeightTable.score_of_class found (WeightClass.ofText?_text c))
  refine
    { low := fun h => known h .low, high := fun h => known h .high, unknown := ?_
      overlong := ?_, absent := ?_, unsupported := ?_ }
  · intro h v found low high stored short
    refine ⟨"Invalid frequency weight type " ++ v.shown ++ " for " ++ Numeral.text frequency
      ++ " MHz", scoresAs_of_score fun {ε} _ => ?_⟩
    exact (supportedScore h).trans
      (WeightTable.score_of_short found (ofValue?_eq_none low high) stored short)
  · intro h v found low high long
    refine unscored_of_score fun {ε} _ => ?_
    exact (supportedScore h).trans
      (WeightTable.score_of_long found (ofValue?_eq_none low high) long)
  · intro h found
    refine scoresAs_of_score fun {ε} _ => ?_
    rw [supportedScore h, WeightTable.score_of_absent found]
    rfl
  · intro h
    refine scoresAs_of_score fun {ε} _ => ?_
    rw [score, if_neg (by simp [h])]
    rfl

/-! ## Tables that requests bring -/

/-- The values of a table that a request brings are classes. -/
theorem exists_class_of_request {setup : Setup} {r : Request} {ps : List (Int × Value)}
    (h : (Occurrence.request setup r).table? = some ps) {p : Int × Value} (hp : p ∈ ps) :
    ∃ c : WeightClass, p.2 = .text c.text := by
  obtain ⟨o, asked, table⟩ := Option.bind_eq_some_iff.1 h
  obtain ⟨call, -, calls⟩ := Option.bind_eq_some_iff.1 asked
  have written : ∀ w : Write, o ≠ .write w := by
    rintro w rfl
    cases table
  cases call with
  | setWeights weights =>
    obtain rfl := Option.some.inj calls
    obtain rfl := Option.some.inj table
    obtain ⟨w, -, rfl⟩ := List.mem_map.1 hp
    exact ⟨w.2, rfl⟩
  | override text => exact absurd (Option.some.inj calls).symm (written _)
  | setThresholds b ns => exact absurd (Option.some.inj calls).symm (written _)
  | _ => cases calls

/-- If only requests bring tables, the value that counts for a frequency is a class. -/
theorem exists_class_of_lastValue? {os : List Occurrence}
    (requests : ∀ o ∈ os, o.table? ≠ none → o.IsRequest) {frequency : Int} {v : Value}
    (h : lastValue? (tables os) frequency = some v) : ∃ c : WeightClass, v = .text c.text := by
  obtain ⟨ps, last, found⟩ := Option.bind_eq_some_iff.1 h
  obtain ⟨p, pair, rfl⟩ := Option.map_eq_some_iff.1 found
  rw [List.findRev?_eq_find?_reverse] at pair
  have among : p ∈ ps := List.mem_reverse.1 (List.mem_of_find?_eq_some pair)
  obtain ⟨o, mem, table⟩ := List.mem_filterMap.1 (List.mem_of_getLast? last)
  cases o with
  | event e => exact absurd (requests _ mem (by simp [table])) id
  | request setup r => exact exists_class_of_request table among

/-! ## Requests for scores -/

/-- A request for the score of an integer, whatever its body. -/
def scoreRequest (frequency : Int) (body : Option String) : Request :=
  ⟨"GET", "/params/frequency-weights/" ++ Numeral.text frequency, body⟩

/-- A request asks for the score of an integer if that is short, and is refused otherwise. -/
theorem decode_scoreRequest (frequency : Int) (body : Option String) :
    (scoreRequest frequency body).decode
      = if Numeral.IsShort frequency then .ok (.score frequency)
        else .error (Control.tooLongInPath frequency) := by
  have known : ("/params/frequency-weights/", Control.Resource.weight) ∈ Control.itemPaths :=
    .tail _ (.tail _ (.head _))
  have allowed : ∀ item, (Control.Resource.weight item).allows .get = true := fun _ => rfl
  rw [Request.decode, scoreRequest, Control.routeOf_integerPath known allowed frequency]
  exact Control.decodeFrequency_text Control.Call.score frequency

/-! ## Scores at every moment -/

theorem scoredBy_after {source : Option Source} {supported : Bool}
    {values : Option (ParamSet α ρ)} {s : Store α ρ}
    (built : (build source supported values).outcome = .ok s) (os : List Occurrence)
    (frequency : Int) :
    ((World.start s []).after os).store.ScoredBy supported (lastValue? (tables os) frequency)
      frequency := by
  obtain ⟨-, support, fresh⟩ := setup_of_build built
  have same : ((World.start s []).after os).store.weightsSupported = supported :=
    (continues_after (World.start s []) os).supported.trans support
  rw [← same, ← get?_weights_after fresh os frequency]
  exact scoredBy_get? _ frequency

/-- **The score of a frequency at every moment.** Whatever has occurred since a store was
    built, the last pair of the frequency in the last table decides, and nothing does
    without support. A value that is no class scores nothing and is logged, if it can be.
    If all tables came by requests, no look-up logs anything. -/
theorem scores_after {source : Option Source} {supported : Bool}
    {values : Option (ParamSet α ρ)} {s : Store α ρ}
    (built : (build source supported values).outcome = .ok s) (os : List Occurrence) :
    let t := ((World.start s []).after os).store
    (∀ frequency, t.ScoredBy supported (lastValue? (tables os) frequency) frequency)
      ∧ ((∀ o ∈ os, o.table? ≠ none → o.IsRequest) →
        ∀ frequency, ∃ n, t.ScoresAs frequency [] n) := by
  intro t
  have scored : ∀ frequency,
      t.ScoredBy supported (lastValue? (tables os) frequency) frequency :=
    scoredBy_after built os
  refine ⟨scored, fun requests frequency => ?_⟩
  cases supports : supported with
  | false => exact ⟨_, (scored frequency).unsupported supports⟩
  | true =>
    cases last : lastValue? (tables os) frequency with
    | none => exact ⟨_, (scored frequency).absent supports last⟩
    | some v =>
      obtain ⟨c, rfl⟩ := exists_class_of_lastValue? requests last
      cases c with
      | low => exact ⟨_, (scored frequency).low supports last⟩
      | high => exact ⟨_, (scored frequency).high supports last⟩

/-- A table that a request brings. -/
def requestedTable : Occurrence := .request Control.plainSetup
  ⟨"PUT", "/params/frequency-weights",
    some "\x7b\"weights\":\x7b\"2412\":\"high\",\"5180\":\"low\"\x7d\x7d"⟩

/-- Another table after it, with a repeated frequency and a value that is no class, then
    an update, thresholds that are rejected, and a reset. -/
def reweighing : List Occurrence := [
  requestedTable,
  .event (.operation (.setWeights
    [(5180, .int 7), (2437, .text "high"), (2437, .text "low")])),
  .event (.operation (.write (.update (some "nud=3")))),
  .event (.operation (.write (.bandThresholds .ghz5 .null))),
  .event (.operation (.write (.bandThresholds .ghz6 (.list [.int 0, .int 0, .int 0, .int 0]))))]

theorem scores_after_reweighing :
    (build none true none : Logged Fault IntStore).outcome = .ok weighing
      ∧ (∀ t, t = ((World.start weighing []).after reweighing).store →
        t.ScoresAs 2437 [] (-40) ∧ t.ScoresAs 2412 [] 0
          ∧ ∃ message, t.ScoresAs 5180 [⟨.error, message⟩] 0)
      ∧ ∃ n, ((World.start weighing []).after [requestedTable]).store.ScoresAs 5180 [] n := by
  have built : (build none true none : Logged Fault IntStore).outcome = .ok weighing := rfl
  refine ⟨built, ?_, (scores_after built [requestedTable]).2 ?_ 5180⟩
  · rintro t rfl
    have scored := (scores_after built reweighing).1
    exact ⟨(scored 2437).low rfl (by decide +kernel), (scored 2412).absent rfl (by decide +kernel),
      (scored 5180).unknown rfl (.int 7) (by decide +kernel) nofun nofun (by decide)
        (by decide)⟩
  · intro o ho _
    obtain rfl := List.mem_singleton.1 ho
    trivial

/-- A table with values that are no classes: one for a frequency that is too long, and one that
    is too long itself. -/
def overlongTable : Occurrence :=
  .event (.operation (.setWeights
    [(Numeral.leastLong, .text "extreme"), (5180, .int Numeral.leastLong)]))

/-- In the last table they are the last values of their frequencies, whose look-ups fail all the
    same, and a request for the frequency that is too long is refused. -/
theorem unscored_leastLong :
    (build none true none : Logged Fault IntStore).outcome = .ok weighing
      ∧ lastValue? (tables [overlongTable]) Numeral.leastLong = some (.text "extreme")
      ∧ ((World.start weighing []).after [overlongTable]).store.Unscored Numeral.leastLong
      ∧ (scoreRequest Numeral.leastLong none).decode
        = .error (Control.tooLongInPath Numeral.leastLong)
      ∧ lastValue? (tables [overlongTable]) 5180 = some (.int Numeral.leastLong)
      ∧ ((World.start weighing []).after [overlongTable]).store.Unscored 5180 := by
  have built : (build none true none : Logged Fault IntStore).outcome = .ok weighing := rfl
  have apart : (5180 : Int) ≠ Numeral.leastLong := by
    intro same
    exact Numeral.not_isShort_leastLong (same ▸ by decide)
  have long := Numeral.not_isShort_leastLong
  have ofLong : lastValue? (tables [overlongTable]) Numeral.leastLong = some (.text "extreme") := by
    simp [lastValue?, tables, overlongTable, Occurrence.table?, Operation.table?,
      List.findRev?_eq_find?_reverse, apart]
  have ofShort : lastValue? (tables [overlongTable]) 5180 = some (.int Numeral.leastLong) := by
    simp [lastValue?, tables, overlongTable, Occurrence.table?, Operation.table?,
      List.findRev?_eq_find?_reverse]
  refine ⟨built, ofLong, ?_, ?_, ofShort, ?_⟩
  · exact (scoredBy_after built [overlongTable] Numeral.leastLong).overlong rfl _ ofLong nofun nofun
      fun short => long short.2
  · rw [decode_scoreRequest, if_neg long]
  · refine (scoredBy_after built [overlongTable] 5180).overlong rfl _ ofShort nofun nofun ?_
    rintro ⟨stored, -⟩
    exact long (by simpa [Value.isShort] using stored)

end RoamTuning.Store
