import RoamTuning.Proofs.Meaning
import RoamTuning.Proofs.Overlay

/-!
# Writes on sound sets

A write is planned before the active set is looked at. What its plan then comes
to is the same edit on all sound sets, or the same rejection, so a store with a
sound set either installs the edited set or stays as it is.

Results:

* `plan_cases`: what a write is planned to do.
* `requested_of_plan`: so which derivations writes ask for.
* `Uniform.accepted`, `Uniform.rejected`: so sound sets decide alike.
* `exists_uniform_of_plan`: a planned change comes to the same on all sound sets.
* `write_of_done`, `write_of_accepted`, `write_of_rejected`, `write_of_fault`:
  the four ways in which a write ends.
-/

namespace RoamTuning

variable {α ρ : Type} [Quantity α] [Row ρ α]

namespace Store

theorem length_requestedThresholds {source : Option Source} {b : Band} {v : Value} {ns : List Int}
    (h : (requestedThresholds source b v).outcome = .ok (some ns)) : ns.length = 4 := by
  unfold requestedThresholds at h
  split at h
  · cases h
  · cases h
  · split at h
    · cases h
    · rename_i four
      split at h
      · obtain ⟨ms, loaded, e⟩ := Logged.outcome_map_eq_ok_iff.1 h
        obtain rfl := Option.some.inj e
        exact length_loadBand (Logged.outcome_mapError_eq_ok_iff.1 loaded)
      · obtain rfl := Option.some.inj (Except.ok.inj h)
        exact not_not.1 four

/-! ## Plans -/

/-- Whether a write asks for nothing: there is no text, or only blanks. -/
def Write.AsksNothing : Write → Prop
  | .update none => True
  | .update (some text) => Text.isBlankText text = true
  | .bandThresholds _ _ => False
  | .thresholds _ _ => False

/-- What a write can be planned to do: nothing if it asks for nothing, nothing
    if its thresholds cannot be used, or else one of two changes. -/
inductive Planned (w : Write) : Plan α ρ → Prop
  | idle (h : w.AsksNothing) : Planned w (.done true)
  | unusable (h : ¬ w.AsksNothing) : Planned w (.done false)
  | text {text : String} {c : Change α ρ} (h : w = .update (some text))
      (plan : planUpdate text = .commit c) : Planned w (.commit c)
  | band (b : Band) {ns : List Int} {c : Change α ρ} (h : ¬ w.AsksNothing) (four : ns.length = 4)
      (plan : planThresholds b ns = .commit c) : Planned w (.commit c)

theorem planUpdate_eq_commit_iff {text : String} {c : Change α ρ} :
    planUpdate text = .commit c ↔ Text.isBlankText text = false ∧ c =
      { derive := Override.parse text
        rejection := "Rejected scoring params update '" ++ Override.sanitize text ++ "': "
        announcement := some "Scoring params updated: " } := by
  cases blank : Text.isBlankText text <;> simp [planUpdate, blank, eq_comm]

omit [Quantity α] in
/-- Thresholds of a band are rejected, or they are planned to be four integers. -/
theorem planBandThresholds_cases {source : Option Source} {b : Band} {v : Value} {p : Plan α ρ}
    (h : (planBandThresholds source b v : Logged Fault (Plan α ρ)).outcome = .ok p) :
    p = .done false ∨ ∃ ns : List Int, ns.length = 4 ∧ p = planThresholds b ns := by
  obtain ⟨requested, usable, h⟩ := Logged.outcome_bind_eq_ok_iff.1 h
  cases requested with
  | none => exact .inl (Except.ok.inj h).symm
  | some ns => exact .inr ⟨ns, length_requestedThresholds usable, (Except.ok.inj h).symm⟩

theorem planned_bandThresholds {source : Option Source} {w : Write} (asks : ¬ w.AsksNothing)
    {b : Band} {v : Value} {p : Plan α ρ}
    (h : (planBandThresholds source b v : Logged Fault (Plan α ρ)).outcome = .ok p) :
    Planned w p := by
  rcases planBandThresholds_cases h with rfl | ⟨ns, four, rfl⟩
  · exact .unusable asks
  · exact .band b asks four rfl

/-- What a write is planned to do, if it can be planned. -/
theorem plan_cases {source : Option Source} {w : Write} {p : Plan α ρ}
    (h : (w.plan source : Logged Fault (Plan α ρ)).outcome = .ok p) : Planned w p := by
  cases w with
  | update text =>
    cases text with
    | none =>
      obtain rfl := Except.ok.inj h
      exact .idle trivial
    | some text =>
      obtain rfl := Except.ok.inj h
      cases blank : Text.isBlankText text with
      | true =>
        rw [planUpdate, if_pos blank]
        exact .idle blank
      | false =>
        rw [planUpdate, if_neg (by simp [blank])]
        exact .text rfl (planUpdate_eq_commit_iff.2 ⟨blank, rfl⟩)
  | bandThresholds b v => exact planned_bandThresholds (by simp [Write.AsksNothing]) h
  | thresholds band v =>
    simp only [Write.plan] at h
    split at h
    · exact planned_bandThresholds (by simp [Write.AsksNothing]) h
    · obtain rfl := Except.ok.inj h
      exact .unusable (by simp [Write.AsksNothing])

theorem Planned.asks {w : Write} {c : Change α ρ} (h : Planned w (.commit c)) :
    ¬ w.AsksNothing := by
  cases h with
  | text h plan =>
    intro blank
    rw [h, Write.AsksNothing, (planUpdate_eq_commit_iff.1 plan).1] at blank
    cases blank
  | band _ asks _ _ => exact asks

/-- The derivations that writes ask for. -/
inductive Requested : Derivation α ρ → Prop
  | text (text : String) : Requested (Override.parse text)
  | thresholds (b : Band) {ns : List Int} (four : ns.length = 4) :
      Requested fun p => .ok (p.setRssi b (Row.ofIntegers ns))

theorem requested_of_plan {source : Option Source} {w : Write} {c : Change α ρ}
    (h : (w.plan source).outcome = .ok (.commit c)) : Requested c.derive := by
  cases plan_cases h with
  | text _ plan =>
    obtain ⟨-, rfl⟩ := planUpdate_eq_commit_iff.1 plan
    exact .text _
  | band b _ four plan =>
    obtain rfl := Plan.commit.inj plan
    exact .thresholds b four

/-! ## Derivations that come to the same on all sound sets -/

/-- A derivation that comes to one edit on all sound sets, or that they all
    reject for one reason. -/
structure Uniform (derive : Derivation Int (List Int)) (verdict : Except Rejection Edit) :
    Prop where
  candidate_eq : ∀ {p : IntParams}, p.Sound → candidate derive p = verdict.map (·.apply p)
  complete : ∀ {e : Edit}, verdict = .ok e → e.Complete
  /-- A rejected set could be judged. -/
  judged : ∀ {r : Rejection}, verdict = .error r → r.misfit? = none

theorem derive_of_candidate {derive : Derivation α ρ} {base p : ParamSet α ρ}
    (h : candidate derive base = .ok p) : derive base = .ok p := by
  obtain ⟨q, derived, valid⟩ := Outcome.bind_eq_ok_iff.1 h
  rw [Outcome.mapError_eq_ok_iff] at derived valid
  rw [derived, ParamSet.eq_of_validated valid]

theorem inDomain_of_candidate {derive : Derivation Int (List Int)} {base p : IntParams}
    (h : candidate derive base = .ok p) : p.InDomain := by
  unfold candidate at h
  obtain ⟨q, -, h⟩ := Outcome.bind_eq_ok_iff.1 h
  obtain ⟨rfl, inDomain⟩ := ParamSet.validated_eq_ok_iff.1 (Outcome.mapError_eq_ok_iff.1 h)
  exact inDomain

/-- What is installed over a sound set is sound. -/
theorem Uniform.sound {derive : Derivation Int (List Int)} {verdict : Except Rejection Edit}
    (u : Uniform derive verdict) {base p : IntParams} (hb : base.Sound)
    (h : candidate derive base = .ok p) : p.Sound := by
  refine ⟨inDomain_of_candidate h, ?_⟩
  rw [u.candidate_eq hb] at h
  cases v : verdict with
  | error r => rw [v] at h; cases h
  | ok e =>
    rw [v] at h
    obtain rfl := Except.ok.inj h
    exact Edit.shaped_apply (u.complete v) hb.shaped

/-- What one sound set accepts all of them accept. -/
theorem Uniform.accepted {derive : Derivation Int (List Int)} {verdict : Except Rejection Edit}
    (u : Uniform derive verdict) {p q r : IntParams} (hp : p.Sound) (hq : q.Sound)
    (h : candidate derive p = .ok r) : ∃ r', candidate derive q = .ok r' := by
  rw [u.candidate_eq hp] at h
  rw [u.candidate_eq hq]
  cases verdict with
  | ok e => exact ⟨e.apply q, rfl⟩
  | error r => cases h

/-- What one sound set rejects all of them reject, and for the same reason. -/
theorem Uniform.rejected {derive : Derivation Int (List Int)} {verdict : Except Rejection Edit}
    (u : Uniform derive verdict) {p q : IntParams} (hp : p.Sound) (hq : q.Sound) {r : Rejection}
    (h : candidate derive p = .error r) : candidate derive q = .error r ∧ r.misfit? = none := by
  rw [u.candidate_eq hp] at h
  rw [u.candidate_eq hq]
  cases verdict with
  | ok e => cases h
  | error r' =>
    obtain rfl := Except.error.inj h
    exact ⟨rfl, u.judged rfl⟩

/-- An edit meets a violation, if it meets anything. -/
theorem misfit?_of_judged {e : Edit} {r : Rejection} (h : e.judged = .error r) :
    r.misfit? = none := by
  unfold Edit.judged at h
  cases c : (e.apply ParamSet.builtIn).check with
  | ok u => rw [c] at h; cases h
  | error d =>
    rw [c] at h
    obtain rfl := Except.error.inj h
    obtain ⟨v, rfl⟩ := ParamSet.isViolation_of_check c
    rfl

/-- What new thresholds come to. -/
theorem uniform_thresholds (b : Band) {ns : List Int} (four : ns.length = 4) :
    Uniform (fun p => .ok (p.setRssi b (Row.ofIntegers ns))) (Edit.thresholds b ns).judged where
  candidate_eq {p} hp := by
    rw [← Edit.validated_apply _ hp.inDomain, Edit.apply_thresholds]
    rfl
  complete h := Edit.judged_eq h ▸ Edit.complete_thresholds b four
  judged := misfit?_of_judged

/-- What override text comes to. -/
theorem uniform_parse (text : String) : Uniform (Override.parse text) (Override.verdict text) where
  candidate_eq {p} hp := by
    have sizes : (fun k => (p.array k).length) = ArrayKey.size := funext hp.shaped
    rw [candidate, Override.parse_eq, sizes, Override.verdict]
    cases Override.refusal? text ArrayKey.size with
    | some e => rfl
    | none => exact Edit.validated_apply _ hp.inDomain
  complete {e} h := by
    unfold Override.verdict at h
    cases r : Override.refusal? text ArrayKey.size with
    | some e => rw [r] at h; cases h
    | none =>
      rw [r] at h
      exact Edit.judged_eq h ▸ Override.complete_editOf r
  judged {r} h := by
    unfold Override.verdict at h
    cases f : Override.refusal? text ArrayKey.size with
    | none =>
      rw [f] at h
      exact misfit?_of_judged h
    | some e =>
      rw [f] at h
      obtain rfl := Except.error.inj h
      cases e with
      | unfit m => exact absurd f Override.refusal?_ne_unfit
      | _ => rfl

theorem Requested.exists_uniform {derive : Derivation Int (List Int)} (h : Requested derive) :
    ∃ verdict, Uniform derive verdict := by
  cases h with
  | text text => exact ⟨_, uniform_parse text⟩
  | thresholds b four => exact ⟨_, uniform_thresholds b four⟩

/-- **A planned change comes to the same on all sound sets.** -/
theorem exists_uniform_of_plan {source : Option Source} {w : Write} {c : Change Int (List Int)}
    (h : (w.plan source).outcome = .ok (.commit c)) : ∃ verdict, Uniform c.derive verdict :=
  (requested_of_plan h).exists_uniform

/-! ## How a write ends -/

/-- The store with a set newly installed. -/
def installed (s : Store α ρ) (p : ParamSet α ρ) : Store α ρ :=
  { s with active := ⟨s.active.commit + 1, p⟩ }

/-- A write that cannot be planned is a fault and changes nothing. -/
theorem write_of_fault {s : Store α ρ} {w : Write} {e : Fault}
    (h : (w.plan s.source : Logged Fault (Plan α ρ)).outcome = .error e) :
    (s.write w).1 = s ∧ (s.write w).2.outcome = .error e := by
  simp [write, h]

/-- A write without a change answers and changes nothing. -/
theorem write_of_done {s : Store α ρ} {w : Write} {b : Bool}
    (h : (w.plan s.source : Logged Fault (Plan α ρ)).outcome = .ok (.done b)) :
    (s.write w).1 = s ∧ (s.write w).2.outcome = .ok b := by
  simp [write, h, carryOut, Logged.pure_eq]

/-- A change whose candidate is in the domain is carried out by installing it. -/
theorem carryOut_of_candidate {s : Store α ρ} {c : Change α ρ} {p : ParamSet α ρ}
    (hc : candidate c.derive s.active.params = .ok p) :
    s.carryOut (.commit c) = (s.installed p, c.accepted (s.installed p)) := by
  have committed : s.commit c.derive = .ok (s.installed p) := by
    rw [commit_eq, hc]
    rfl
  simp only [carryOut, committed]

theorem carryOut_of_accepted {s : Store α ρ} {c : Change α ρ} {p : ParamSet α ρ}
    (hc : candidate c.derive s.active.params = .ok p) :
    (s.carryOut (.commit c)).1 = s.installed p
      ∧ (s.carryOut (.commit c)).2.outcome = .ok true := by
  have answered : (c.accepted (s.installed p)).outcome = .ok true := by
    unfold Change.accepted
    cases c.announcement <;> rfl
  rw [carryOut_of_candidate hc]
  exact ⟨rfl, answered⟩

/-- A change without a candidate in the domain is not carried out. -/
theorem carryOut_of_refused {s : Store α ρ} {c : Change α ρ} {r : Rejection}
    (hc : candidate c.derive s.active.params = .error r) :
    s.carryOut (.commit c) = (s, c.rejected r) := by
  have refused : s.commit c.derive = .error r := by
    rw [commit_eq, hc]
    rfl
  simp only [carryOut, refused]

/-- A change that derives a set in the domain is installed. -/
theorem write_of_accepted {s : Store α ρ} {w : Write} {c : Change α ρ} {p : ParamSet α ρ}
    (h : (w.plan s.source).outcome = .ok (.commit c))
    (hc : candidate c.derive s.active.params = .ok p) :
    (s.write w).1 = s.installed p ∧ (s.write w).2.outcome = .ok true := by
  simp only [write, h]
  exact carryOut_of_accepted hc

/-- A change that cannot be committed changes nothing. -/
theorem write_of_refused {s : Store α ρ} {w : Write} {c : Change α ρ} {r : Rejection}
    (h : (w.plan s.source).outcome = .ok (.commit c))
    (hc : candidate c.derive s.active.params = .error r) :
    (s.write w).1 = s ∧ (s.write w).2.outcome = (c.rejected r).outcome := by
  simp only [write, h, carryOut_of_refused hc, and_self]

/-- A change that is rejected changes nothing. -/
theorem write_of_rejected {s : Store α ρ} {w : Write} {c : Change α ρ} {r : Rejection}
    (h : (w.plan s.source).outcome = .ok (.commit c))
    (hc : candidate c.derive s.active.params = .error r) (judged : r.misfit? = none) :
    (s.write w).1 = s ∧ (s.write w).2.outcome = .ok false := by
  obtain ⟨left, answer⟩ := write_of_refused h hc
  refine ⟨left, answer.trans ?_⟩
  rw [Change.rejected, judged]
  rfl

/-- Whether the active set of a store is sound. -/
def Sound (s : IntStore) : Prop := s.active.params.Sound

end Store

end RoamTuning
