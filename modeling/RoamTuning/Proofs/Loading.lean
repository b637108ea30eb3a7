import RoamTuning.Proofs.Writes

/-!
# Loaded sets are sound

A source that works answers every question, so its overlay is had. If the overlay is in
the domain it is loaded, and otherwise the built-in set is, so that whatever a source
answers, a set that is loaded is sound.

Results:

* `Source.working_ofValues`: tables work.
* `outcome_loadOverlay`, `outcome_loadBand`: what a source has that works.
* `loadSet_of_inDomain`, `loadSet_of_not_inDomain`: which set is loaded.
* `sound_of_loadSet`: every set that is loaded is sound.
-/

namespace RoamTuning

/-! ## Sources that work -/

/-- Whether a source answers every question, if only that it has no default. -/
structure Source.Working (source : Source) : Prop where
  integer : ∀ name m, source.integer name ≠ .broken m
  truth : ∀ name m, source.truth name ≠ .broken m

theorem Source.working_ofValues (values : Table String Value) : (ofValues values).Working where
  integer name m := by
    simp only [ofValues]
    split <;> simp
  truth name m := by
    simp only [ofValues]
    split <;> simp

/-! ## What is loaded -/

section Loaded

variable {source : Source}

/-- A source that works answers every question. -/
theorem Source.Working.answers (working : source.Working) (q : Question) : source.Answers q := by
  cases q with
  | integer name n => exact answers_of_not_broken (working.integer name)
  | truth name b => exact answers_of_not_broken (working.truth name)

theorem Source.Working.asking (working : source.Working) (qs : List Question) :
    source.asking qs = ⟨source.records qs, .ok ()⟩ :=
  asking_of_answers fun q _ => working.answers q

theorem outcome_loadBand (working : source.Working) (b : Band) :
    (loadBand (some source) b ParamSet.builtIn).outcome = .ok (source.thresholds b) := by
  rw [loadBand_eq, working.asking]
  rfl

theorem outcome_loadOverlay (working : source.Working) :
    (loadOverlay source).outcome = .ok source.overlay := by
  rw [loadOverlay_eq, working.asking]
  rfl

/-- A set in the domain is loaded as it was laid over the built-in one. -/
theorem loadSet_of_inDomain (working : source.Working) (valid : source.overlay.InDomain) :
    (loadSet (some source)).outcome = .ok source.overlay := by
  rw [loadSet_eq, working.asking, (ParamSet.check_eq_ok_iff _).2 valid]
  rfl

/-- In place of any other set the built-in one is loaded. -/
theorem loadSet_of_not_inDomain (working : source.Working) (invalid : ¬ source.overlay.InDomain) :
    (loadSet (some source)).outcome = .ok ParamSet.builtIn := by
  rw [loadSet_eq, working.asking]
  cases check : source.overlay.check with
  | ok _ => exact absurd ((ParamSet.check_eq_ok_iff _).1 check) invalid
  | error d => rfl

end Loaded

/-- **Every set that is loaded is sound.** -/
theorem sound_of_loadSet {source : Option Source} {p : IntParams}
    (h : (loadSet source).outcome = .ok p) : p.Sound := by
  cases source with
  | none => exact Except.ok.inj h ▸ ParamSet.sound_builtIn
  | some s =>
    rw [loadSet_eq, Logged.outcome_bind_eq_ok_iff] at h
    obtain ⟨-, -, h⟩ := h
    cases check : s.overlay.check with
    | ok _ =>
      rw [check] at h
      obtain rfl := Except.ok.inj h
      exact ⟨(ParamSet.check_eq_ok_iff _).1 check, shaped_overlay s⟩
    | error d =>
      rw [check] at h
      exact Except.ok.inj h ▸ ParamSet.sound_builtIn

end RoamTuning
