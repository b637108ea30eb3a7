import Mathlib.Data.List.TakeWhile
import RoamTuning.Proofs.Frame
import RoamTuning.Proofs.Sessions

/-!
# Verdicts on override text

What is made of a text does not depend on the store that is asked, as long as its
active set is sound: all stores accept it, and then have the same values wherever
the text names a parameter, or all of them reject it in the same words.

Results:

* `update_of_blank`, `update_of_accepted`, `update_of_rejected`: the three ways in
  which an update ends, with what is logged.
* `update_cases_of_filled`: the two of them that are left for a text that is not blank.
* `update_agrees`: stores with valid sets agree on every text.
-/

namespace RoamTuning.Store

open ParamSet (Field)
open Override (keysOf)

/-! ## How an update ends -/

section Updates

variable {α ρ : Type} [Quantity α] [Row ρ α]

/-- What is logged of a text that is rejected. -/
def rejectedRecord (text : String) (r : Rejection) : Record :=
  ⟨.warning, "Rejected scoring params update '" ++ Override.sanitize text ++ "': " ++ r.message⟩

theorem update_of_blank (s : Store α ρ) {text : String} (blank : Text.isBlankText text = true) :
    s.update (some text) = (s, ⟨[], .ok true⟩) := by
  rw [update_some, planUpdate, if_pos blank]
  rfl

theorem update_of_accepted {s : Store α ρ} {text : String} {p : ParamSet α ρ}
    (filled : Text.isBlankText text = false)
    (derived : candidate (Override.parse text) s.active.params = .ok p) :
    s.update (some text) = (s.installed p,
      ⟨[⟨.info, "Scoring params updated: " ++ (s.installed p).rendered⟩], .ok true⟩) := by
  rw [update_some, planUpdate, if_neg (by simp [filled])]
  simp only [carryOut, commit_eq, derived]
  rfl

theorem update_of_rejected {s : Store α ρ} {text : String} {r : Rejection}
    (filled : Text.isBlankText text = false)
    (derived : candidate (Override.parse text) s.active.params = .error r)
    (judged : r.misfit? = none) :
    s.update (some text) = (s, ⟨[rejectedRecord text r], .ok false⟩) := by
  rw [update_some, planUpdate, if_neg (by simp [filled])]
  simp only [carryOut, commit_eq, derived, Except.map, Change.rejected, judged]
  rfl

end Updates

/-- An update of a sound store with a text that is not blank is answered yes and installs
    the set that is derived, or it is answered no and leaves the store. -/
theorem update_cases_of_filled {s : IntStore} (hs : s.Sound) {text : String}
    (filled : Text.isBlankText text = false) :
    (∃ p, candidate (Override.parse text) s.active.params = .ok p
        ∧ (s.update (some text)).1 = s.installed p ∧ (s.update (some text)).2.outcome = .ok true)
      ∨ ∃ r, candidate (Override.parse text) s.active.params = .error r
        ∧ (s.update (some text)).1 = s ∧ (s.update (some text)).2.outcome = .ok false := by
  cases derived : candidate (Override.parse text) s.active.params with
  | ok p =>
    rw [update_of_accepted filled derived]
    exact .inl ⟨p, rfl, rfl, rfl⟩
  | error r =>
    rw [update_of_rejected filled derived ((uniform_parse text).rejected hs hs derived).2]
    exact .inr ⟨r, rfl, rfl, rfl⟩

/-! ## Stores that agree -/

/-- A blank text has no parameter among its keys. -/
theorem name_not_mem_keysOf_of_blank {text : String} (blank : Text.isBlankText text = true)
    (f : Field) : f.name ∉ keysOf text := by
  have outside : ∀ c : Char, Text.isBlank c = false → c ∉ text.toList := fun c hc =>
    Override.not_mem_of_forall hc (List.all_eq_true.1 blank)
  have whole : text.toList.takeWhile (· ≠ '=') = text.toList := by
    rw [List.takeWhile_eq_self_iff]
    intro c hc
    rw [decide_eq_true_eq]
    rintro rfl
    exact outside '=' (by decide) hc
  have keys : keysOf text = [text] := by
    rw [keysOf, Override.writtenPairs, Text.Delimiter.comma_eq_single,
      Text.pieces_single_of_not_mem (outside ',' (by decide))]
    rw [List.map_singleton, List.map_singleton, Override.writtenPair, whole, String.ofList_toList]
  rw [keys, List.mem_singleton]
  rintro rfl
  have visible : Text.isBlankText f.name = false := by
    rcases f with k | k | c | _
    · cases k <;> decide
    · cases k <;> decide
    · cases c <;> decide
    · decide
  rw [visible] at blank
  cases blank

/-- **Stores with valid sets agree on every text**, whatever their sets are and
    wherever their defaults come from: they give the same answer, have the same
    values for what an accepted text names, and log the same of a rejected one. -/
theorem update_agrees {s t : IntStore} (valid : s.active.params.check = .ok ())
    (shaped : s.active.params.Shaped) (valid' : t.active.params.check = .ok ())
    (shaped' : t.active.params.Shaped) (text : String) :
    (∃ answer, (s.update (some text)).2.outcome = .ok answer
        ∧ (t.update (some text)).2.outcome = .ok answer)
      ∧ ((s.update (some text)).2.outcome = .ok true →
        ∀ f ∈ Field.tunable, f.name ∈ keysOf text →
          (s.update (some text)).1.active.params.get f
            = (t.update (some text)).1.active.params.get f)
      ∧ ((s.update (some text)).2.outcome = .ok false →
        ∃ r : Rejection, candidate (Override.parse text) s.active.params = .error r
          ∧ candidate (Override.parse text) t.active.params = .error r
          ∧ (s.update (some text)).2.log = [rejectedRecord text r]
          ∧ (t.update (some text)).2.log = [rejectedRecord text r]) := by
  have hs : s.Sound := ⟨(ParamSet.check_eq_ok_iff _).1 valid, shaped⟩
  have ht : t.Sound := ⟨(ParamSet.check_eq_ok_iff _).1 valid', shaped'⟩
  cases blank : Text.isBlankText text with
  | true =>
    rw [s.update_of_blank blank, t.update_of_blank blank]
    refine ⟨⟨true, rfl, rfl⟩, fun _ f _ key => ?_, fun no => by simp at no⟩
    exact absurd key (name_not_mem_keysOf_of_blank blank f)
  | false =>
    have uniform := uniform_parse text
    cases derived : candidate (Override.parse text) s.active.params with
    | ok p =>
      obtain ⟨q, derived'⟩ := uniform.accepted hs ht derived
      rw [update_of_accepted blank derived, update_of_accepted blank derived']
      refine ⟨⟨true, rfl, rfl⟩, fun _ f tunable key => ?_, fun no => by simp at no⟩
      have hp := Override.applied_of_parse (derive_of_candidate derived)
      have hq := Override.applied_of_parse (derive_of_candidate derived')
      exact hp.get_eq hq tunable key
    | error r =>
      obtain ⟨derived', judged⟩ := uniform.rejected hs ht derived
      rw [update_of_rejected blank derived judged, update_of_rejected blank derived' judged]
      exact ⟨⟨false, rfl, rfl⟩, fun yes => by simp at yes, fun _ => ⟨r, rfl, derived', rfl, rfl⟩⟩

/-- A store that was updated and the store that it was agree on a text of which one
    value is out of range. -/
theorem update_agrees_after_update :
    ∃ r : Rejection, (unsourced.update (some "horizon=20,nud=11")).2.log
        = [rejectedRecord "horizon=20,nud=11" r]
      ∧ ((unsourced.update (some "nud=3")).1.update (some "horizon=20,nud=11")).2.log
        = [rejectedRecord "horizon=20,nud=11" r] := by
  obtain ⟨-, -, rejected⟩ := update_agrees (s := unsourced)
    (t := (unsourced.update (some "nud=3")).1) (by decide +kernel) (by decide +kernel)
    (by decide +kernel) (by decide +kernel) "horizon=20,nud=11"
  obtain ⟨r, -, -, log, log'⟩ := rejected (by decide +kernel)
  exact ⟨r, log, log'⟩

end RoamTuning.Store
