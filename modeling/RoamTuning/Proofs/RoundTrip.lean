import RoamTuning.Proofs.Rendering
import RoamTuning.Proofs.Sessions

/-!
# Reading back what was rendered

The text of a set is read back over every base with arrays as long as its own, if
no array is empty and no integer has more than 32 bits. So a store that is updated
with its own active set stays what it is, if the text is taken. Packet rates have
no greatest value, and with one of more than 32 bits the update is rejected. All
other parameters are kept to 32 bits by their ranges.

Results:

* `words_iff_of_sound`: which sound sets hold integers of 32 bits only.
* `parse_render_outcome`: what becomes of the text of any set over any base.
* `update_rendered_iff`: when an update with the active set keeps it.
* `rejected_rendered_generous`: a store on which such an update is rejected.
-/

namespace RoamTuning

open Numeral (IsWord wordMin wordMax)

/-! ## Sound sets of 32 bits -/

namespace ParamSet

/-- Whether all tunable parameters of a set have 32 bits. -/
def Words (p : IntParams) : Prop :=
  (∀ k, ∀ n ∈ p.array k, IsWord n) ∧ ∀ k, IsWord (p.scalar k)

theorem isWord_of_mem_rssi {p : IntParams} (h : p.InDomain) (b : Band) {n : Int}
    (hn : n ∈ p.rssi b) : IsWord n := by
  obtain ⟨low, high⟩ := (h.rssi b).1 n hn
  have least : wordMin ≤ rssiMin := by decide
  have greatest : rssiMax ≤ wordMax := by decide
  exact ⟨Int.le_trans least low, Int.le_trans high greatest⟩

theorem isWord_scalar {p : IntParams} (h : p.InDomain) (k : ScalarKey) : IsWord (p.scalar k) := by
  have range : (scalarRange k).1 ≤ p.scalar k ∧ p.scalar k ≤ (scalarRange k).2 := by
    cases k with
    | horizon => exact h.horizon
    | nud => exact h.nud
    | experiment => exact h.experiment
  have least : wordMin ≤ (scalarRange k).1 := by cases k <;> decide
  have greatest : (scalarRange k).2 ≤ wordMax := by cases k <;> decide
  exact ⟨Int.le_trans least range.1, Int.le_trans range.2 greatest⟩

/-- Only packet rates can have more than 32 bits. -/
theorem words_iff_of_sound {p : IntParams} (h : p.Sound) :
    p.Words ↔ ∀ n ∈ p.tunables.packetRates, n ≤ wordMax := by
  constructor
  · intro words n hn
    exact (words.1 .packetRates n hn).2
  · intro rates
    refine ⟨fun k n hn => ?_, isWord_scalar h.inDomain⟩
    cases k with
    | rssi24 => exact isWord_of_mem_rssi h.inDomain .ghz24 hn
    | rssi5 => exact isWord_of_mem_rssi h.inDomain .ghz5 hn
    | rssi6 => exact isWord_of_mem_rssi h.inDomain .ghz6 hn
    | packetRates =>
      have positive : 0 ≤ n := h.inDomain.rates.1 n hn
      exact ⟨Int.le_trans (by decide) positive, rates n hn⟩

theorem Sound.array_ne_nil {p : IntParams} (h : p.Sound) (k : ArrayKey) : p.array k ≠ [] := by
  intro empty
  have length := h.shaped k
  rw [empty] at length
  cases k <;> cases length

theorem Sound.readable_render_iff {p : IntParams} (h : p.Sound) :
    Override.Readable (Override.render p) p ↔ p.Words := by
  rw [Override.readable_render_iff h.array_ne_nil]
  simp only [true_and]
  rfl

end ParamSet

/-! ## Reading the text of a set over a base -/

namespace Override

/-- Whether a set is read back over a base from the text that it is rendered as: its
    arrays are not empty and as long as those of the base, and its tunable
    parameters have 32 bits. -/
structure ReadsBack (p base : IntParams) : Prop where
  nonempty : ∀ k, p.array k ≠ []
  lengths : ∀ k, (p.array k).length = (base.array k).length
  words : p.Words

variable {p base : IntParams}

theorem readsBack_iff_of_nonempty (nonempty : ∀ k, p.array k ≠ []) :
    ReadsBack p base ↔ Readable (render p) base := by
  rw [readable_render_iff nonempty]
  constructor
  · rintro ⟨-, lengths, arrays, scalars⟩
    exact ⟨fun k => ⟨lengths k, arrays k⟩, scalars⟩
  · rintro ⟨arrays, scalars⟩
    exact ⟨nonempty, fun k => (arrays k).1, fun k => (arrays k).2, scalars⟩

/-- The text of a set without empty arrays is not read back because of a value. -/
theorem exists_badValue_of_not_readsBack (nonempty : ∀ k, p.array k ≠ [])
    (h : ¬ ReadsBack p base) :
    ∃ key value reason, parse (render p) base = .error (.badValue key value reason) := by
  have grammar : checkGrammar (render p) = .ok () :=
    checkGrammar_eq_ok_iff.2 (accepts_render nonempty)
  rw [readsBack_iff_of_nonempty nonempty] at h
  obtain ⟨e, refused⟩ := Option.ne_none_iff_exists'.1 (mt refusal?_eq_none_iff.1 h)
  simp only [parse_eq_error_iff]
  cases refusal?_eq_some_iff.1 refused with
  | malformed fails => exact absurd grammar fails
  | repeatedKey _ repeated => exact absurd (nodup_keysOf_render p) repeated
  | badValue passes distinct order fits complaint =>
    have again := Refused.badValue passes distinct order fits complaint
    cases complaint <;> exact ⟨_, _, _, again⟩

theorem parse_render_eq_malformed_iff :
    parse (render p) base = .error (.malformed (render p)) ↔ ∃ k, p.array k = [] := by
  rw [parse_eq_error_iff]
  constructor
  · intro h
    cases h with
    | malformed fails =>
      rw [Ne, checkGrammar_eq_ok_iff, accepts_render_iff] at fails
      simpa using fails
    | badValue _ _ _ _ complaint => cases complaint
  · rintro ⟨k, empty⟩
    refine .malformed ?_
    rw [Ne, checkGrammar_eq_ok_iff, accepts_render_iff]
    exact fun nonempty => nonempty k empty

theorem parse_render_eq_ok_iff {q : IntParams} :
    parse (render p) base = .ok q ↔ ReadsBack p base ∧ q = ⟨p.tunables, base.platform⟩ := by
  by_cases nonempty : ∀ k, p.array k ≠ []
  · rw [readsBack_iff_of_nonempty nonempty]
    constructor
    · intro h
      have readable := readable_of_parse h
      exact ⟨readable, Except.ok.inj (h.symm.trans (parse_render nonempty readable))⟩
    · rintro ⟨readable, rfl⟩
      exact parse_render nonempty readable
  · have malformed : parse (render p) base = .error (.malformed (render p)) :=
      parse_render_eq_malformed_iff.2 (by simpa using nonempty)
    rw [malformed]
    exact iff_of_false (by simp) fun back => nonempty back.1.nonempty

/-- **What becomes of the text of a set.** Over a base it is read exactly if the
    arrays of the set are not empty and as long as those of the base and its tunable
    parameters have 32 bits, and then as the base with the tunable parameters of the
    set. If an array is empty, the text does not follow the grammar, and otherwise
    a value is refused. -/
theorem parse_render_outcome (p base : IntParams) :
    ((∃ q, parse (render p) base = .ok q) ↔ ReadsBack p base)
      ∧ (∀ q, parse (render p) base = .ok q ↔ ReadsBack p base ∧ q = ⟨p.tunables, base.platform⟩)
      ∧ (parse (render p) base = .error (.malformed (render p)) ↔ ∃ k, p.array k = [])
      ∧ ((∃ key value reason, parse (render p) base = .error (.badValue key value reason))
        ↔ (∀ k, p.array k ≠ []) ∧ ¬ ReadsBack p base) := by
  refine ⟨?_, fun q => parse_render_eq_ok_iff, parse_render_eq_malformed_iff, ?_⟩
  · simp only [parse_render_eq_ok_iff, exists_and_left, exists_eq, and_true]
  · constructor
    · rintro ⟨key, value, reason, h⟩
      refine ⟨fun k empty => ?_, fun back => ?_⟩
      · have malformed : parse (render p) base = .error (.malformed (render p)) :=
          parse_render_eq_malformed_iff.2 ⟨k, empty⟩
        rw [h] at malformed
        cases malformed
      · rw [parse_render_eq_ok_iff.2 ⟨back, rfl⟩] at h
        cases h
    · rintro ⟨nonempty, lost⟩
      exact exists_badValue_of_not_readsBack nonempty lost

end Override

/-! ## Updates -/

namespace Store

theorem plan_rendered {s : IntStore} (h : s.Sound) (source : Option Source) :
    ∃ c : Change Int (List Int), c.derive = Override.parse s.rendered
      ∧ ((Write.update (some s.rendered)).plan source).outcome = .ok (.commit c) := by
  have filled : Text.isBlankText s.rendered = false :=
    Override.isBlankText_of_accepts (Override.accepts_render h.array_ne_nil)
  exact ⟨_, rfl, congrArg Except.ok (planUpdate_eq_commit_iff.2 ⟨filled, rfl⟩)⟩

/-- Where the active set has 32 bits, it is installed again. -/
theorem update_rendered_of_words {s : IntStore} (h : s.Sound) (words : s.active.params.Words) :
    (s.update (some s.rendered)).2.outcome = .ok true
      ∧ (s.update (some s.rendered)).1 = s.installed s.active.params := by
  obtain ⟨c, derive, plan⟩ := plan_rendered h s.source
  have read : c.derive s.active.params = .ok s.active.params := by
    rw [derive]
    exact Override.parse_render h.array_ne_nil (h.readable_render_iff.2 words)
  have valid : s.active.params.validated = .ok s.active.params :=
    ParamSet.validated_eq_ok_iff.2 ⟨rfl, h.inDomain⟩
  have taken : candidate c.derive s.active.params = .ok s.active.params := by
    rw [candidate, read]
    show (s.active.params.validated.mapError Rejection.invalid) = _
    rw [valid, Outcome.mapError_ok]
  exact (write_of_accepted plan taken).symm

/-- Otherwise the update is rejected. -/
theorem update_rendered_of_not_words {s : IntStore} (h : s.Sound)
    (long : ¬ s.active.params.Words) :
    (s.update (some s.rendered)).2.outcome = .ok false
      ∧ (s.update (some s.rendered)).1 = s := by
  obtain ⟨c, derive, plan⟩ := plan_rendered h s.source
  have unreadable : ¬ Override.Readable s.rendered s.active.params :=
    mt h.readable_render_iff.1 long
  obtain ⟨e, refused⟩ :=
    Option.ne_none_iff_exists'.1 (mt Override.refusal?_eq_none_iff.1 unreadable)
  have rejected : candidate c.derive s.active.params = .error (.override e) := by
    rw [candidate, derive, Override.parse_eq, refused]
    rfl
  have judged : (Rejection.override e).misfit? = none := by
    have uniform := uniform_parse s.rendered
    rw [← derive] at uniform
    exact (uniform.rejected h h rejected).2
  exact (write_of_rejected plan rejected judged).symm

/-- **When an update with the active set keeps it.** In every state of a store the
    update is accepted and leaves all parameters as they are exactly if no packet
    rate has more than 32 bits, and otherwise it is rejected and leaves the
    store. -/
theorem update_rendered_iff {s : IntStore} (h : Reachable s) :
    ((s.update (some s.rendered)).2.outcome = .ok true
        ∧ (s.update (some s.rendered)).1.active.params = s.active.params
      ↔ ∀ n ∈ s.active.params.tunables.packetRates, n ≤ wordMax)
    ∧ ((∃ n ∈ s.active.params.tunables.packetRates, wordMax < n) →
      (s.update (some s.rendered)).2.outcome = .ok false
        ∧ (s.update (some s.rendered)).1 = s) := by
  have words := ParamSet.words_iff_of_sound h.sound
  constructor
  · rw [← words]
    constructor
    · rintro ⟨accepted, -⟩
      by_contra long
      rw [(update_rendered_of_not_words h.sound long).1] at accepted
      cases accepted
    · intro short
      obtain ⟨accepted, left⟩ := update_rendered_of_words h.sound short
      exact ⟨accepted, by rw [left, installed]⟩
  · rintro ⟨n, hn, long⟩
    refine update_rendered_of_not_words h.sound fun short => ?_
    have := words.1 short n hn
    omega

theorem update_rendered_unsourced :
    Reachable unsourced ∧ (unsourced.update (some unsourced.rendered)).2.outcome = .ok true
      ∧ (unsourced.update (some unsourced.rendered)).1.active.params = ParamSet.builtIn := by
  have reached : Reachable unsourced := ⟨unsourced, [], built_unsourced, rfl⟩
  exact ⟨reached, (update_rendered_iff reached).1.2 (by decide)⟩

/-! ## A packet rate of more than 32 bits -/

/-- A source whose packet rate of high traffic has more than 32 bits. -/
def generousSource : Source :=
  .ofValues (Table.ofPairs [(highRateResource, .int (wordMax + 1))])

/-- The store that is built from it. -/
def generous : IntStore :=
  let p := ParamSet.builtIn
  ⟨some generousSource, false,
    ⟨0, { p with tunables := p.tunables.setArray .packetRates [0, 1, wordMax + 1] }⟩, Table.empty⟩

theorem built_generous : Built generous := by
  have loaded : (loadSet (some generousSource)).outcome = .ok generous.active.params := by
    decide +kernel
  exact .ofSource (build_of_loadSet loaded false)

/-- Its own active set is not accepted as an update. -/
theorem rejected_rendered_generous :
    Reachable generous ∧ (generous.update (some generous.rendered)).2.outcome = .ok false :=
  ⟨⟨generous, [], built_generous, rfl⟩, by decide +kernel⟩

end Store

end RoamTuning
