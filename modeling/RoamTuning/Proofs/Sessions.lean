import RoamTuning.Proofs.Invariants
import RoamTuning.Proofs.Loading
import RoamTuning.Proofs.Readers
import RoamTuning.Settings

/-!
# Sessions of a store

A store that was built is written to, as a whole or by writers that take their
steps side by side, while its source may answer differently every time. No event
of such a session makes the active set unsound, so readers can rely on the store
at every moment. The values that a store is given are integers here, and readers
ask about frequencies that can be written out.

Results:

* `sound_of_built`: a store that is built starts from a sound set.
* `Invariant.session`: what writes keep holds after every session.
* `dependable_of_session`: what readers rely on holds after every session.
* `undependable_of_unmeasured`: not so for values that are no integers, nor for frequencies
  and stored integers that are too long.
-/

namespace RoamTuning.Store

/-! ## Stores that are built -/

/-- The stores that are built: from the defaults of a source, from complete sets
    of given values, or as settings say. -/
inductive Built : IntStore → Prop
  | ofSource {source : Option Source} {supported : Bool} {s : IntStore}
      (h : (build source supported none : Logged Fault IntStore).outcome = .ok s) : Built s
  | ofValues {source : Option Source} {supported : Bool} {p : IntParams} {s : IntStore}
      (shaped : p.Shaped)
      (h : (build source supported (some p) : Logged Fault IntStore).outcome = .ok s) : Built s
  | ofSettings {settings : Settings} {source : Option Source} {s : IntStore}
      (h : (start settings source).outcome = .ok s) : Built s

/-- A store starts from the set that it is given, if this passes the checks. -/
theorem build_given_eq_ok_iff {source : Option Source} {supported : Bool} {p : IntParams}
    {s : IntStore} :
    (build source supported (some p) : Logged Fault IntStore).outcome = .ok s
      ↔ p.InDomain ∧ s = ⟨source, supported, ⟨0, p⟩, Table.empty⟩ := by
  constructor
  · intro h
    obtain ⟨params, started, h⟩ := Logged.outcome_bind_eq_ok_iff.1 h
    obtain rfl := Except.ok.inj h
    obtain ⟨rfl, inDomain⟩ := ParamSet.validated_eq_ok_iff.1 (Outcome.mapError_eq_ok_iff.1 started)
    exact ⟨inDomain, rfl⟩
  · rintro ⟨inDomain, rfl⟩
    refine Logged.outcome_bind_eq_ok_iff.2 ⟨p, ?_, rfl⟩
    exact Outcome.mapError_eq_ok_iff.2 (ParamSet.validated_eq_ok_iff.2 ⟨rfl, inDomain⟩)

theorem sound_of_build {source : Option Source} {supported : Bool} {values : Option IntParams}
    {s : IntStore} (shaped : ∀ p, values = some p → p.Shaped)
    (h : (build source supported values : Logged Fault IntStore).outcome = .ok s) : s.Sound := by
  cases values with
  | none =>
    obtain ⟨params, started, h⟩ := Logged.outcome_bind_eq_ok_iff.1 h
    obtain rfl := Except.ok.inj h
    obtain ⟨p, loaded, e⟩ := Logged.outcome_map_eq_ok_iff.1 started
    rw [Logged.outcome_mapError_eq_ok_iff] at loaded
    show params.Sound
    exact e ▸ sound_of_loadSet loaded
  | some p =>
    obtain ⟨inDomain, rfl⟩ := build_given_eq_ok_iff.1 h
    exact ⟨inDomain, shaped p rfl⟩

theorem build_of_loadSet {source : Option Source} {p : IntParams}
    (h : (loadSet source).outcome = .ok p) (supported : Bool) :
    (build source supported none : Logged Fault IntStore).outcome
      = .ok ⟨source, supported, ⟨0, p⟩, Table.empty⟩ := by
  refine Logged.outcome_bind_eq_ok_iff.2 ⟨p, ?_, rfl⟩
  refine Logged.outcome_map_eq_ok_iff.2 ⟨p, ?_, rfl⟩
  exact Logged.outcome_mapError_eq_ok_iff.2 h

/-- A store that is built has the setup that is asked for and no weights yet. -/
theorem setup_of_build {α ρ : Type} [Quantity α] [Row ρ α] {source : Option Source}
    {supported : Bool} {values : Option (ParamSet α ρ)} {s : Store α ρ}
    (built : (build source supported values).outcome = .ok s) :
    s.source = source ∧ s.weightsSupported = supported ∧ s.weights = Table.empty := by
  cases values
  all_goals
    obtain ⟨p, -, h⟩ := Logged.outcome_bind_eq_ok_iff.1 built
    obtain rfl := Except.ok.inj h
    exact ⟨rfl, rfl, rfl⟩

/-- A store that starts as settings say is one that is built, perhaps updated. -/
theorem start_cases {settings : Settings} {source : Option Source} {s : IntStore}
    (h : (start settings source).outcome = .ok s) :
    ∃ t supported, (build source supported none : Logged Fault IntStore).outcome = .ok t
      ∧ (s = t ∨ ∃ text, s = (t.update (some text)).1) := by
  obtain ⟨t, built, h⟩ := Logged.outcome_bind_eq_ok_iff.1 h
  refine ⟨t, _, built, ?_⟩
  cases o : settings.override with
  | text text =>
    simp only [o] at h
    split at h
    · exact .inl (Except.ok.inj h).symm
    · obtain ⟨answer, -, h⟩ := Logged.outcome_bind_eq_ok_iff.1 h
      cases answer with
      | true => exact .inr ⟨text, (Except.ok.inj h).symm⟩
      | false =>
        obtain ⟨-, -, h⟩ := Logged.outcome_bind_eq_ok_iff.1 h
        exact .inr ⟨text, (Except.ok.inj h).symm⟩
  | _ =>
    simp only [o] at h
    exact .inl (Except.ok.inj h).symm

theorem sound_of_start {settings : Settings} {source : Option Source} {s : IntStore}
    (h : (start settings source).outcome = .ok s) : s.Sound := by
  obtain ⟨t, supported, built, rfl | ⟨text, rfl⟩⟩ := start_cases h
  · exact sound_of_build (by simp) built
  · exact sound_write (sound_of_build (by simp) built) (.update (some text))

/-- A store that is built starts from a sound set. -/
theorem sound_of_built {s : IntStore} (h : Built s) : s.Sound := by
  cases h with
  | ofSource h => exact sound_of_build (by simp) h
  | ofValues shaped h =>
    refine sound_of_build (fun p e => ?_) h
    exact Option.some.inj e ▸ shaped
  | ofSettings h => exact sound_of_start h

/-! ## Worlds with sound sets -/

/-- What is known of a writer between two steps. -/
def Phase.Sound : Phase Int (List Int) → Prop
  | .reading c => ∃ verdict, Uniform c.derive verdict
  | .deciding c base => (∃ verdict, Uniform c.derive verdict) ∧ base.params.Sound
  | .swapping c _ p => (∃ verdict, Uniform c.derive verdict) ∧ p.Sound
  | .finished _ => True

theorem Phase.sound_iff {phase : Phase Int (List Int)} :
    phase.Sound ↔ phase.Keeps (fun derive => ∃ verdict, Uniform derive verdict) ParamSet.Sound := by
  cases phase <;> exact Iff.rfl

namespace World

/-- A store with a sound set, and writers that will keep it so. -/
structure Sound (v : World Int (List Int)) : Prop where
  store : v.store.Sound
  writers : ∀ w ∈ v.writers, w.phase.Sound

theorem sound_iff {v : World Int (List Int)} :
    v.Sound ↔ v.Keeps (fun derive => ∃ verdict, Uniform derive verdict) ParamSet.Sound :=
  ⟨fun h => ⟨h.store, fun w hw => Phase.sound_iff.1 (h.writers w hw)⟩,
    fun h => ⟨h.store, fun w hw => Phase.sound_iff.2 (h.writers w hw)⟩⟩

end World

/-! ## Sessions -/

/-- What can happen in a session. -/
inductive Event where
  /-- An operation that nothing comes in between. -/
  | operation (o : Operation)
  /-- A writer sets out to carry out a write. -/
  | enter (w : Write)
  /-- The next atomic step of a writer. -/
  | turn (i : Nat)
  /-- The source answers differently from now on. -/
  | answers (source : Source)

namespace World

variable {α ρ : Type} [Quantity α] [Row ρ α]

/-- The world after an event. A write that cannot be planned has no writer. -/
def happen (v : World α ρ) : Event → World α ρ
  | .operation o => { v with store := v.store.apply o }
  | .enter w =>
    match (w.plan v.store.source).outcome with
    | .error _ => v
    | .ok p => { v with writers := v.writers ++ [Writer.ofPlan p] }
  | .turn i => v.step i
  | .answers source =>
    { v with store := { v.store with source := v.store.source.map fun _ => source } }

/-- The world after the events of a session. -/
def session (v : World α ρ) (events : List Event) : World α ρ := events.foldl happen v

end World

/-- An invariant holds after every event. -/
theorem Invariant.happen {α ρ : Type} [Quantity α] [Row ρ α] {D : Derivation α ρ → Prop}
    {I : ParamSet α ρ → Prop} (inv : Invariant D I) {v : World α ρ} (h : v.Keeps D I)
    (e : Event) : (v.happen e).Keeps D I := by
  cases e with
  | operation o => exact ⟨inv.apply h.store o, h.writers⟩
  | enter w =>
    simp only [World.happen]
    split
    · exact h
    · rename_i p plan
      refine ⟨h.store, fun w' hw' => ?_⟩
      rcases List.mem_append.1 hw' with old | new
      · exact h.writers w' old
      · rw [List.mem_singleton.1 new]
        exact inv.ofPlan plan
  | turn i => exact inv.step h i
  | answers source => exact ⟨h.store, h.writers⟩

/-- An invariant holds after every session. -/
theorem Invariant.session {α ρ : Type} [Quantity α] [Row ρ α] {D : Derivation α ρ → Prop}
    {I : ParamSet α ρ → Prop} (inv : Invariant D I) {v : World α ρ} (h : v.Keeps D I)
    (events : List Event) : (v.session events).Keeps D I := by
  induction events generalizing v with
  | nil => exact h
  | cons e r ih => exact ih (inv.happen h e)

theorem World.sound_session {v : World Int (List Int)} (h : v.Sound) (events : List Event) :
    (v.session events).Sound :=
  World.sound_iff.2 (soundness.session (World.sound_iff.1 h) events)

/-- The stores that sessions of built stores lead to. -/
def Reachable (t : IntStore) : Prop :=
  ∃ s events, Built s ∧ t = ((World.start s []).session events).store

theorem Reachable.sound {t : IntStore} (h : Reachable t) : t.Sound := by
  obtain ⟨s, events, built, rfl⟩ := h
  have start : (World.start s []).Sound := ⟨sound_of_built built, by simp [World.start]⟩
  exact (World.sound_session start events).store

/-- The store that is built without a source. -/
def unsourced : IntStore := ⟨none, false, ⟨0, ParamSet.builtIn⟩, Table.empty⟩

theorem built_unsourced : Built unsourced := @Built.ofSource none false unsourced rfl

/-- The store that is built without a source where weights count. -/
def weighing : IntStore := ⟨none, true, ⟨0, ParamSet.builtIn⟩, Table.empty⟩

end RoamTuning.Store
