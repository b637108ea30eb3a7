import RoamTuning.Proofs.Verdicts

/-!
# Commits that updates come in between

A commit whose first attempt is disturbed by updates ends as if it had been made after
them. What the stale base decides the newer set decides, too, since sound sets agree on
every text; and an update that is carried out leaves its mark on the active snapshot
even if it changes no parameter, so that the stale candidate is never installed over it.

Results:

* `update_cases`: an update of a sound store is carried out, or leaves the store.
* `updates_cases`: the same for updates in a row.
* `commitAmid_rejected`, `commitAmid_accepted`, `commitAmid_retried`, `commitAmid_lost`: how a
  commit ends that is disturbed once.
* `commitDuring_sequential`: how a commit ends whose first attempt updates disturb.
-/

namespace RoamTuning.Store

/-! ## Updates in a row -/

/-- An update of a sound store is answered. It installs a set if it is accepted and asks
    for something, and otherwise leaves the store. -/
theorem update_cases {s : IntStore} (hs : s.Sound) (t : Option String) :
    ∃ answer, (s.update t).2.outcome = .ok answer
      ∧ ((answer = true ∧ ¬ (Write.update t).AsksNothing ∧ ∃ p, (s.update t).1 = s.installed p)
        ∨ (¬ (answer = true ∧ ¬ (Write.update t).AsksNothing) ∧ (s.update t).1 = s)) := by
  cases t with
  | none => exact ⟨true, rfl, .inr ⟨fun h => h.2 trivial, rfl⟩⟩
  | some text =>
    cases blank : Text.isBlankText text with
    | true =>
      rw [update_of_blank s blank]
      exact ⟨true, rfl, .inr ⟨fun h => h.2 blank, rfl⟩⟩
    | false =>
      have asks : ¬ (Write.update (some text)).AsksNothing := by
        simp [Write.AsksNothing, blank]
      rcases update_cases_of_filled hs blank with ⟨p, -, left, answer⟩ | ⟨r, -, left, answer⟩
      · exact ⟨true, answer, .inl ⟨rfl, asks, p, left⟩⟩
      · exact ⟨false, answer, .inr ⟨by simp, left⟩⟩

/-- Whether one of some updates was carried out: it asks for something and was answered
    yes. -/
def CarriedOut (ts : List (Option String)) (answers : List Bool) : Prop :=
  ∃ e ∈ ts.zip answers, ¬ (Write.update e.1).AsksNothing ∧ e.2 = true

theorem carriedOut_cons_iff {t : Option String} {ts : List (Option String)} {answer : Bool}
    {answers : List Bool} : CarriedOut (t :: ts) (answer :: answers)
      ↔ (answer = true ∧ ¬ (Write.update t).AsksNothing) ∨ CarriedOut ts answers := by
  simp only [CarriedOut, List.zip_cons_cons, List.mem_cons, exists_eq_or_imp, and_comm]

theorem updates_cons {α ρ : Type} [Quantity α] [Row ρ α] {s : Store α ρ} {t : Option String}
    {answer : Bool} (h : (s.update t).2.outcome = .ok answer) (ts : List (Option String)) :
    (s.updates (t :: ts)).1 = ((s.update t).1.updates ts).1
      ∧ (s.updates (t :: ts)).2.outcome
        = ((s.update t).1.updates ts).2.outcome.map (answer :: ·) := by
  simp only [updates, h, and_self]

/-- Updates of a sound store are all answered. If one of them is carried out, the active
    snapshot is a later one, and otherwise the store is as it was. -/
theorem updates_cases {s : IntStore} (hs : s.Sound) (ts : List (Option String)) :
    ∃ answers, (s.updates ts).2.outcome = .ok answers ∧ answers.length = ts.length
      ∧ ((CarriedOut ts answers ∧ s.active.commit < (s.updates ts).1.active.commit)
        ∨ (¬ CarriedOut ts answers ∧ (s.updates ts).1 = s)) := by
  induction ts generalizing s with
  | nil => exact ⟨[], rfl, rfl, .inr ⟨by simp [CarriedOut], rfl⟩⟩
  | cons t r ih =>
    obtain ⟨answer, answered, first⟩ := update_cases hs t
    obtain ⟨left, outcome⟩ := updates_cons answered r
    obtain ⟨answers, rest, length, later⟩ := ih (s := (s.update t).1) (sound_write hs (.update t))
    rw [left, outcome]
    refine ⟨answer :: answers, congrArg (Except.map (answer :: ·)) rest,
      congrArg (· + 1) length, ?_⟩
    rw [carriedOut_cons_iff]
    -- the number of the commit never goes back, so what the first update has installed stays
    -- behind the active snapshot whatever the later ones do
    rcases first with ⟨accepted, asks, p, moved⟩ | ⟨idle, stayed⟩
    · have newer : s.active.commit < (s.update t).1.active.commit := by
        rw [moved]
        exact Nat.lt_succ_self _
      refine .inl ⟨.inl ⟨accepted, asks⟩, ?_⟩
      rcases later with ⟨-, lt⟩ | ⟨-, same⟩
      · exact newer.trans lt
      · exact newer.trans_eq (congrArg (·.active.commit) same.symm)
    · rw [stayed] at later ⊢
      rcases later with ⟨carried, lt⟩ | ⟨none, same⟩
      · exact .inl ⟨.inr carried, lt⟩
      · exact .inr ⟨fun h => h.elim idle none, same⟩

/-! ## One disturbance -/

section Disturbed

variable {α ρ : Type} [Quantity α] [Row ρ α] {derive : Derivation α ρ} {s s' : Store α ρ}
  {p q : ParamSet α ρ}

/-- A rejected commit leaves what the others have made of the store. -/
theorem commitAmid_rejected {r : Rejection} (h : candidate derive s.active.params = .error r) :
    commitAmid derive [fun _ => s'] s = ⟨s', 1, .error r⟩ := by
  simp only [commitAmid, h]

/-- A candidate is installed if its base is still active. -/
theorem commitAmid_accepted (h : candidate derive s.active.params = .ok p)
    (same : s'.active.commit = s.active.commit) :
    commitAmid derive [fun _ => s'] s = ⟨s'.installed p, 1, .ok p⟩ := by
  have swapped : s'.install? s.active p = some (s'.installed p) := by
    rw [install?, if_pos same, installed, same]
  simp only [commitAmid, h, swapped]

/-- A candidate whose base is not active any more is given up for one that is derived
    from the newer set. -/
theorem commitAmid_retried (h : candidate derive s.active.params = .ok p)
    (newer : s'.active.commit ≠ s.active.commit)
    (again : candidate derive s'.active.params = .ok q) :
    commitAmid derive [fun _ => s'] s = ⟨s'.installed q, 2, .ok q⟩ := by
  have missed : s'.install? s.active p = none := if_neg newer
  simp only [commitAmid, h, missed, again, install?_self, Option.getD_some, installed]

/-- It is rejected if none can be derived from the newer set. -/
theorem commitAmid_lost (h : candidate derive s.active.params = .ok p)
    (newer : s'.active.commit ≠ s.active.commit) {r : Rejection}
    (again : candidate derive s'.active.params = .error r) :
    commitAmid derive [fun _ => s'] s = ⟨s', 2, .error r⟩ := by
  have missed : s'.install? s.active p = none := if_neg newer
  simp only [commitAmid, h, missed, again]

end Disturbed

/-- What a disturbed commit answers that could be judged. -/
theorem commitAfter_of_judged {α ρ : Type} [Quantity α] [Row ρ α] {derive : Derivation α ρ}
    {s : Store α ρ} {disturbed : Store α ρ × Logged Fault (List Bool)} {answers : List Bool}
    (answered : disturbed.2.outcome = .ok answers) {report : CommitReport α ρ}
    (h : commitAmid derive [fun _ => disturbed.1] s = report)
    (judged : ∀ r, report.result = .error r → r.misfit? = none) :
    (commitAfter derive disturbed s).1 = report.store
      ∧ (commitAfter derive disturbed s).2.outcome = .ok ⟨answers, report⟩ := by
  simp only [commitAfter, answered, h, true_and]
  cases result : report.result with
  | ok p => rfl
  | error r => simp only [judged r result]

/-- **A commit that updates disturb comes to what it comes to after them**, in a store
    with a valid set and complete arrays. It installs what its text makes of the set that
    the updates have left, at its second attempt if one of them was carried out and at
    its first one otherwise; or it is rejected at its first attempt for the reason for
    which it would be rejected after them, and leaves what they have left. -/
theorem commitDuring_sequential {s : IntStore} (valid : s.active.params.check = .ok ())
    (shaped : s.active.params.Shaped) (outer : String) (inner : List (Option String)) :
    ∃ answers report, (s.updates inner).2.outcome = .ok answers
      ∧ answers.length = inner.length
      ∧ (s.commitDuring outer inner).2.outcome = .ok ⟨answers, report⟩
      ∧ (s.commitDuring outer inner).1 = report.store
      ∧ (∀ p, candidate (Override.parse outer) s.active.params = .ok p →
        ∃ q, Override.parse outer (s.updates inner).1.active.params = .ok q
          ∧ report.result = .ok q
          ∧ report.store = (s.updates inner).1.installed q
          ∧ (CarriedOut inner answers → report.calls = 2)
          ∧ (¬ CarriedOut inner answers → report.calls = 1))
      ∧ (∀ r, candidate (Override.parse outer) s.active.params = .error r →
        candidate (Override.parse outer) (s.updates inner).1.active.params = .error r
          ∧ report.result = .error r
          ∧ report.store = (s.updates inner).1
          ∧ report.calls = 1)
      ∧ report.calls ≤ 2 := by
  have hs : s.Sound := ⟨(ParamSet.check_eq_ok_iff _).1 valid, shaped⟩
  have sound : (s.updates inner).1.Sound := sound_updates hs inner
  have uniform := uniform_parse outer
  obtain ⟨answers, answered, length, cases⟩ := updates_cases hs inner
  cases derived : candidate (Override.parse outer) s.active.params with
  | error r =>
    obtain ⟨derived', judged⟩ := uniform.rejected hs sound derived
    obtain ⟨left, outcome⟩ := commitAfter_of_judged answered (commitAmid_rejected derived)
      (by simp [judged])
    refine ⟨answers, _, answered, length, outcome, left, by simp, fun r' same => ?_, by simp⟩
    obtain rfl := Except.error.inj same
    exact ⟨derived', rfl, rfl, rfl⟩
  | ok p =>
    obtain ⟨q, derived'⟩ := uniform.accepted hs sound derived
    rcases cases with ⟨carried, newer⟩ | ⟨none, same⟩
    · obtain ⟨left, outcome⟩ := commitAfter_of_judged answered
        (commitAmid_retried derived newer.ne' derived') (by simp)
      refine ⟨answers, _, answered, length, outcome, left, fun _ _ => ?_, by simp, by simp⟩
      exact ⟨q, derive_of_candidate derived', rfl, rfl, fun _ => rfl, fun h => absurd carried h⟩
    · have accepted := commitAmid_accepted derived (congrArg (·.active.commit) same)
      obtain ⟨left, outcome⟩ := commitAfter_of_judged answered accepted (by simp)
      refine ⟨answers, _, answered, length, outcome, left, fun _ _ => ?_, by simp, by simp⟩
      refine ⟨p, ?_, rfl, rfl, fun h => absurd h none, fun _ => rfl⟩
      rw [same]
      exact derive_of_candidate derived

/-- One update that changes a parameter, one that asks for nothing and one that is out of
    range: there are two attempts, and both changes are kept. -/
theorem commitDuring_disturbed :
    ∃ report, (unsourced.commitDuring "nud=3"
        [some "horizon=20", some " ", some "nud=11"]).2.outcome = .ok ⟨[true, true, false], report⟩
      ∧ report.calls = 2
      ∧ report.store.active.params.tunables.horizon = 20
      ∧ report.store.active.params.tunables.nud = 3 := by
  obtain ⟨answers, report, answered, -, outcome, left, accepted, -, -⟩ :=
    commitDuring_sequential (s := unsourced) (by decide +kernel) (by decide +kernel) "nud=3"
      [some "horizon=20", some " ", some "nud=11"]
  have given : (unsourced.updates [some "horizon=20", some " ", some "nud=11"]).2.outcome
      = .ok [true, true, false] := by decide +kernel
  obtain rfl : answers = [true, true, false] := Except.ok.inj (answered.symm.trans given)
  have derived : candidate (Override.parse "nud=3") unsourced.active.params
      = .ok { unsourced.active.params with
          tunables := { unsourced.active.params.tunables with nud := 3 } } := by decide +kernel
  obtain ⟨q, -, -, -, retried, -⟩ := accepted _ derived
  have carried : CarriedOut [some "horizon=20", some " ", some "nud=11"] [true, true, false] :=
    ⟨(some "horizon=20", true), by simp, by simp only [Write.AsksNothing]; decide, rfl⟩
  refine ⟨report, outcome, retried carried, ?_⟩
  rw [← left]
  decide +kernel

end RoamTuning.Store
