import RoamTuning.Proofs.Sessions

/-!
# Resetting the thresholds of a band

Four zeros ask for the platform's thresholds of one band. They are read from the
source for that band alone, whatever else it has, while a store starts from a set
that is in the domain as a whole. So a reset leads back to the start where the
source has such a set, and where it has none only if it says of the band what
is built in.

Results:

* `source_session`: a source stays in place as long as it answers the same.
* `loaded_cases`: when a store starts from the thresholds that its source has for a band.
* `write_of_reset`: what a reset comes to in a sound store.
* `reset_of_session`: what a reset comes to after a session, and when it leads
  back to the thresholds of the start.
* `reset_of_lopsided`: a source whose thresholds of one band are of no use, so that
  a reset of another band does not lead back.
-/

namespace RoamTuning

/-! ## Thresholds of one band -/

namespace ParamSet

/-- No check relates the thresholds of one band to anything else. -/
theorem inDomain_setRssi_iff {p : IntParams} (h : p.InDomain) (b : Band) (ns : List Int) :
    (p.setRssi b ns).InDomain ↔ RssiInDomain ns := by
  constructor
  · intro valid
    have own := valid.rssi b
    rwa [rssi_of_setRssi, if_pos rfl] at own
  · intro own
    have rssi : ∀ c, RssiInDomain ((p.setRssi b ns).rssi c) := by
      intro c
      rw [rssi_of_setRssi]
      split
      · exact own
      · exact h.rssi c
    cases b <;>
      exact ⟨rssi, h.rates, h.horizon, h.nud, h.experiment, h.unmetered, h.metered⟩

end ParamSet

/-- Whether the defaults of a source, laid over the built-in set, are in the domain. -/
def Source.Consistent (source : Source) : Prop :=
  ∃ overlay, (loadOverlay source).outcome = .ok overlay ∧ overlay.InDomain

/-- A store starts from the thresholds that its source has for a band by itself, if
    the source is consistent, and otherwise from the built-in ones. -/
theorem loaded_cases {source : Option Source} (working : ∀ s ∈ source, s.Working) (b : Band) :
    ∃ initial own, (loadSet source).outcome = .ok initial
      ∧ (loadBand source b ParamSet.builtIn).outcome = .ok own
      ∧ ((∀ s ∈ source, s.Consistent) → initial.rssi b = own)
      ∧ (¬ (∀ s ∈ source, s.Consistent) → initial = ParamSet.builtIn) := by
  cases source with
  | none => exact ⟨ParamSet.builtIn, _, rfl, rfl, fun _ => rfl, fun _ => rfl⟩
  | some s =>
    have works := working s rfl
    have loaded := outcome_loadOverlay works
    have own := outcome_loadBand works b
    have laid : s.overlay.rssi b = s.thresholds b := by cases b <;> rfl
    by_cases valid : s.overlay.InDomain
    · refine ⟨_, _, loadSet_of_inDomain works valid, own, fun _ => laid, fun lopsided => ?_⟩
      refine absurd (fun t ht => ?_) lopsided
      obtain rfl := Option.some.inj ht
      exact ⟨_, loaded, valid⟩
    · refine ⟨_, _, loadSet_of_not_inDomain works valid, own, fun consistent => ?_, fun _ => rfl⟩
      obtain ⟨p, again, inDomain⟩ := consistent s rfl
      obtain rfl := Except.ok.inj (loaded.symm.trans again)
      exact absurd inDomain valid

namespace Store

/-! ## Resets -/

/-- Whether a write asks for the defaults of a band: it has four values that
    convert to zero. -/
inductive Write.Resets (b : Band) : Write → Prop
  | bandThresholds {v : Value} (zeros : v.items >>= Value.toInts = .ok resetThresholds) :
      Resets b (.bandThresholds b v)
  | thresholds {band v : Value} (names : Band.ofValue? band = some b)
      (zeros : v.items >>= Value.toInts = .ok resetThresholds) : Resets b (.thresholds band v)

/-- Thresholds in the domain are installed. -/
theorem carryOut_thresholds_of_inDomain {s : IntStore} (h : s.Sound) (b : Band) {ns : List Int}
    (valid : ParamSet.RssiInDomain ns) :
    s.carryOut (planThresholds b ns)
      = (s.installed (s.active.params.setRssi b ns), ⟨[], .ok true⟩) := by
  have inDomain := (ParamSet.inDomain_setRssi_iff h.inDomain b ns).2 valid
  have derived : candidate (fun p : IntParams => .ok (p.setRssi b (Row.ofIntegers ns)))
      s.active.params = (s.active.params.setRssi b ns).validated.mapError .invalid := rfl
  rw [ParamSet.validated_eq_ok_iff.2 ⟨rfl, inDomain⟩, Outcome.mapError_ok] at derived
  simp only [carryOut, planThresholds, commit_eq, derived]
  rfl

/-- Other thresholds are rejected. -/
theorem carryOut_thresholds_of_not_inDomain {s : IntStore} (h : s.Sound) (b : Band)
    {ns : List Int} (four : ns.length = 4) (invalid : ¬ ParamSet.RssiInDomain ns) :
    ∃ reason, s.carryOut (planThresholds b ns)
      = (s, ⟨[⟨.warning, "Rejected " ++ reason⟩], .ok false⟩) := by
  have outside := mt (ParamSet.inDomain_setRssi_iff h.inDomain b ns).1 invalid
  have derived : candidate (fun p : IntParams => .ok (p.setRssi b (Row.ofIntegers ns)))
      s.active.params = (s.active.params.setRssi b ns).validated.mapError .invalid := rfl
  cases checked : (s.active.params.setRssi b ns).validated with
  | ok p => exact absurd (ParamSet.validated_eq_ok_iff.1 checked).2 outside
  | error d =>
    rw [checked, Outcome.mapError_error] at derived
    have judged := ((uniform_thresholds b four).rejected h h derived).2
    simp only [carryOut, planThresholds, commit_eq, derived, Except.map, Change.rejected, judged]
    -- what is said of the thresholds starts with the same word as every rejection
    rw [String.append_assoc, String.append_assoc, String.append_assoc, String.append_assoc]
    exact ⟨_, rfl⟩

/-- A reset is planned as a write of the thresholds that the source has for the
    band by itself. -/
theorem plan_of_reset {source : Option Source} {w : Write} {b : Band} (h : w.Resets b)
    {own : List Int} (loaded : (loadBand source b ParamSet.builtIn).outcome = .ok own) :
    (w.plan source : Logged Fault (Plan Int (List Int))).outcome
      = .ok (planThresholds b own) := by
  have planned : ∀ {v : Value}, v.items >>= Value.toInts = .ok resetThresholds →
      (planBandThresholds source b v : Logged Fault (Plan Int (List Int))).outcome
        = .ok (planThresholds b own) := by
    intro v zeros
    refine Logged.outcome_bind_eq_ok_iff.2 ⟨some own, ?_, rfl⟩
    simp only [requestedThresholds, zeros, ne_eq, not_true_eq_false, if_false, if_true]
    refine Logged.outcome_map_eq_ok_iff.2 ⟨own, ?_, rfl⟩
    exact Logged.outcome_mapError_eq_ok_iff.2 loaded
  cases h with
  | bandThresholds zeros => exact planned zeros
  | thresholds names zeros =>
    simp only [Write.plan, names]
    exact planned zeros

/-- **What a reset comes to in a sound store**: it is accepted exactly if the source
    has thresholds in the domain for the band, and then installs them; otherwise
    the store stays as it is. -/
theorem write_of_reset {s : IntStore} (h : s.Sound) {w : Write} {b : Band} (reset : w.Resets b)
    {own : List Int} (loaded : (loadBand s.source b ParamSet.builtIn).outcome = .ok own) :
    (ParamSet.RssiInDomain own → (s.write w).2.outcome = .ok true
        ∧ (s.write w).1 = s.installed (s.active.params.setRssi b own))
      ∧ (¬ ParamSet.RssiInDomain own → (s.write w).2.outcome = .ok false
        ∧ (s.write w).1 = s) := by
  have plan := plan_of_reset reset loaded
  constructor
  · intro valid
    simp only [write, plan, carryOut_thresholds_of_inDomain h b valid, and_self]
  · intro invalid
    obtain ⟨reason, rejected⟩ :=
      carryOut_thresholds_of_not_inDomain h b (length_loadBand loaded) invalid
    simp only [write, plan, rejected, and_self]

/-! ## Stores that are built from a source -/

/-- The stores that are built from the defaults of a source, or as settings say. -/
inductive BuiltFrom (source : Option Source) : IntStore → Prop
  | build {supported : Bool} {s : IntStore}
      (h : (build source supported none : Logged Fault IntStore).outcome = .ok s) :
      BuiltFrom source s
  | start {settings : Settings} {s : IntStore} (h : (start settings source).outcome = .ok s) :
      BuiltFrom source s

theorem BuiltFrom.built {source : Option Source} {s : IntStore} (h : BuiltFrom source s) :
    Built s := by
  cases h with
  | build h => exact .ofSource h
  | start h => exact .ofSettings h

theorem BuiltFrom.source_eq {source : Option Source} {s : IntStore} (h : BuiltFrom source s) :
    s.source = source := by
  cases h with
  | build h => exact (setup_of_build h).1
  | start h =>
    obtain ⟨t, supported, built, rfl | ⟨text, rfl⟩⟩ := start_cases h
    · exact (setup_of_build built).1
    · exact (sameSetup_write t (.update (some text))).1.trans (setup_of_build built).1

/-- Whether the source says the same after an event as before. -/
def Event.Steady : Event → Prop
  | .answers _ => False
  | _ => True

variable {α ρ : Type} [Quantity α] [Row ρ α]

namespace World

theorem source_happen (v : World α ρ) {e : Event} (steady : e.Steady) :
    (v.happen e).store.source = v.store.source := by
  cases e with
  | operation o => exact (sameSetup_apply v.store o).1
  | enter w =>
    simp only [happen]
    split <;> rfl
  | turn i => exact v.source_step i
  | answers source => exact steady.elim

/-- A source stays in place in a session in which it always answers the same. -/
theorem source_session (v : World α ρ) {events : List Event} (steady : ∀ e ∈ events, e.Steady) :
    (v.session events).store.source = v.store.source := by
  induction events generalizing v with
  | nil => rfl
  | cons e r ih =>
    obtain ⟨first, rest⟩ := List.forall_mem_cons.1 steady
    exact (ih (v.happen e) rest).trans (v.source_happen first)

end World

/-! ## Resets after a session -/

/-- **What a reset comes to after a session** of a store that is built from a source
    that works and always answers the same. The reset never is a fault. It is
    accepted exactly if the thresholds that the source has for the band are in the
    domain; they are installed then, and nothing else changes, and otherwise the
    store stays as it is. It leads back to the thresholds of the set that the store
    started from exactly if the source is consistent as a whole or has the built-in
    thresholds for the band. The answers of the source have at most `Numeral.digitLimit`
    digits, so that a rejected one can be reported. -/
theorem reset_of_session {source : Option Source} (working : ∀ s ∈ source, s.Working)
    {s : IntStore} (built : BuiltFrom source s) {events : List Event}
    (steady : ∀ e ∈ events, e.Steady) {w : Write} {b : Band} (reset : w.Resets b) :
    let t := ((World.start s []).session events).store
    ∃ initial own, (loadSet source).outcome = .ok initial
      ∧ (loadBand source b ParamSet.builtIn).outcome = .ok own
      ∧ (ParamSet.RssiInDomain own → (t.write w).2.outcome = .ok true
          ∧ (t.write w).1 = t.installed (t.active.params.setRssi b own))
      ∧ (¬ ParamSet.RssiInDomain own → (t.write w).2.outcome = .ok false ∧ (t.write w).1 = t)
      ∧ ((t.write w).2.outcome = .ok true
            ∧ (t.write w).1.active.params.rssi b = initial.rssi b
          ↔ (∀ s ∈ source, s.Consistent) ∨ own = ParamSet.builtIn.rssi b) := by
  intro t
  obtain ⟨initial, own, start, loaded, consistent, inconsistent⟩ := loaded_cases working b
  have sameSource : t.source = source :=
    ((World.start s []).source_session steady).trans built.source_eq
  have sound : t.Sound := Reachable.sound ⟨s, events, built.built, rfl⟩
  obtain ⟨accepted, rejected⟩ := write_of_reset sound reset (sameSource ▸ loaded)
  refine ⟨initial, own, start, loaded, accepted, rejected, ?_⟩
  have initialValid : ParamSet.RssiInDomain (initial.rssi b) :=
    (sound_of_loadSet start).inDomain.rssi b
  -- the set of the start is in the domain, so thresholds equal to its own are accepted
  have back : (t.write w).2.outcome = .ok true
      ∧ (t.write w).1.active.params.rssi b = initial.rssi b ↔ own = initial.rssi b := by
    constructor
    · rintro ⟨answer, restored⟩
      by_cases valid : ParamSet.RssiInDomain own
      · rw [(accepted valid).2] at restored
        simpa [installed, ParamSet.rssi_of_setRssi] using restored
      · rw [(rejected valid).1] at answer
        cases answer
    · intro same
      obtain ⟨answer, left⟩ := accepted (same ▸ initialValid)
      refine ⟨answer, ?_⟩
      rw [left]
      simpa [installed, ParamSet.rssi_of_setRssi] using same
  rw [back]
  by_cases whole : ∀ s ∈ source, s.Consistent
  · exact iff_of_true (consistent whole).symm (.inl whole)
  · rw [inconsistent whole, or_iff_right whole]

/-- Four zeros. -/
def zeros : Value := .list [.int 0, .int 0, .int 0, .int 0]

/-- The default of a platform whose good signal at 2.4 GHz is -50 dBm. -/
def goodSignal : String × Value := ("score_good_rssi_threshold_24ghz", .int (-50))

/-- A source with that default only. -/
def attunedSource : Source := .ofValues (Table.ofPairs [goodSignal])

/-- The store that is built from it. -/
def attuned : IntStore :=
  ⟨some attunedSource, false, ⟨0, ParamSet.builtIn.setRssi .ghz24 [-83, -80, -73, -50]⟩,
    Table.empty⟩

theorem loadSet_attuned : (loadSet (some attunedSource)).outcome = .ok attuned.active.params := by
  decide +kernel

/-- A session that sets other thresholds. -/
def retuning : List Event := [.operation (.write (.update (some "rssi2=-90:-85:-75:-65")))]

/-- After it a reset leads back to the start. -/
theorem reset_of_attuned :
    let t := ((World.start attuned []).session retuning).store
    t.active.params.rssi .ghz24 = [-90, -85, -75, -65]
      ∧ (t.write (.bandThresholds .ghz24 zeros)).2.outcome = .ok true
      ∧ (t.write (.bandThresholds .ghz24 zeros)).1.active.params.rssi .ghz24
        = attuned.active.params.rssi .ghz24 := by
  have working : ∀ s ∈ attuned.source, s.Working := by
    rintro s ⟨⟩
    exact Source.working_ofValues _
  have consistent : ∀ s ∈ attuned.source, s.Consistent := by
    rintro s ⟨⟩
    exact ⟨attuned.active.params, by decide +kernel,
      (ParamSet.check_eq_ok_iff _).1 (by decide +kernel)⟩
  have built : BuiltFrom attuned.source attuned := .build (build_of_loadSet loadSet_attuned false)
  have steady : ∀ e ∈ retuning, e.Steady := by simp [retuning, Event.Steady]
  have reset : (Write.bandThresholds .ghz24 zeros).Resets .ghz24 := .bandThresholds rfl
  obtain ⟨initial, own, start, -, -, -, back⟩ := reset_of_session working built steady reset
  obtain rfl := Except.ok.inj (loadSet_attuned.symm.trans start)
  exact ⟨by decide +kernel, back.2 (.inl consistent)⟩

/-! ## A band whose thresholds are of no use -/

/-- The same source with a default at 5 GHz that is no signal strength. -/
def lopsidedSource : Source :=
  .ofValues (Table.ofPairs [goodSignal, ("score_good_rssi_threshold_5ghz", .int 5)])

/-- The store that is built from it: it starts from the built-in set. -/
def lopsided : IntStore := ⟨some lopsidedSource, false, ⟨0, ParamSet.builtIn⟩, Table.empty⟩

/-- At 2.4 GHz a reset leads to thresholds that the store did not start with, and at
    5 GHz it is rejected. -/
theorem reset_of_lopsided :
    lopsidedSource.Working ∧ BuiltFrom (some lopsidedSource) lopsided
      ∧ (loadSet (some lopsidedSource)).outcome = .ok ParamSet.builtIn
      ∧ (lopsided.write (.bandThresholds .ghz24 zeros)).2.outcome = .ok true
      ∧ (lopsided.write (.bandThresholds .ghz24 zeros)).1.active.params.rssi .ghz24
        = [-83, -80, -73, -50]
      ∧ ParamSet.builtIn.rssi .ghz24 = [-83, -80, -73, -60]
      ∧ (lopsided.write (.bandThresholds .ghz5 zeros)).2.outcome = .ok false := by
  have loaded : (loadSet (some lopsidedSource)).outcome = .ok ParamSet.builtIn := by
    decide +kernel
  refine ⟨Source.working_ofValues _, .build (build_of_loadSet loaded false), loaded, ?_⟩
  decide +kernel

end Store

end RoamTuning
