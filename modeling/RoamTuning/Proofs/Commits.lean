import RoamTuning.Proofs.Contention

/-!
# Commits in a session

Whether an event commits is seen from its answers: a write that asks for something is
answered yes, a disturbed commit or one of the updates that disturb it succeeds, or a
writer finishes with a yes. Then a later snapshot is active. After any other event, with
whatever answer or fault it ends, the very same snapshot is active as before. The integers
of the sets are ones that can be written, of at most `Numeral.digitLimit` digits: the text
of a new set is logged only after it is active.

Results:

* `Advances.trans`: what two parts of a session come to.
* `advances_write`, `advances_updates`, `advances_commitDuring`, `advances_step`: the events.
* `commit_session_eq_iff`: the number of the active snapshot tells whether there was a commit.
-/

namespace RoamTuning.Store

variable {α ρ : Type} [Quantity α] [Row ρ α]

/-! ## Events that commit -/

/-- Whether a write is carried out: it asks for something and is answered yes. -/
def CarriesOut (s : Store α ρ) (w : Write) : Prop :=
  ¬ w.AsksNothing ∧ (s.write w).2.outcome = .ok true

/-- Whether one of several updates is carried out, of which a fault would be the last. -/
def CarriesOutOneOf (s : Store α ρ) : List (Option String) → Prop
  | [] => False
  | t :: r => s.CarriesOut (.update t)
    ∨ ∃ answer, (s.update t).2.outcome = .ok answer ∧ (s.update t).1.CarriesOutOneOf r

namespace World

/-- Whether an event commits. -/
def Commits (v : World α ρ) : Event → Prop
  | .operation (.write w) => v.store.CarriesOut w
  | .operation (.commitDuring outer inner) => v.store.CarriesOutOneOf inner
    ∨ ∃ report p, (v.store.commitDuring outer inner).2.outcome = .ok report
      ∧ report.commit.result = .ok p
  | .operation (.setWeights _) => False
  | .enter _ => False
  | .turn i => ∃ w, v.writers[i]? = some w ∧ (∀ answer, w.phase ≠ .finished answer)
      ∧ (w.step v.store).1.phase = .finished true
  | .answers _ => False

/-- Whether some event of a session commits. -/
def CommitsDuring (v : World α ρ) (events : List Event) : Prop :=
  ∃ before e after, events = before ++ e :: after ∧ (v.session before).Commits e

theorem commitsDuring_cons_iff {v : World α ρ} {e : Event} {r : List Event} :
    v.CommitsDuring (e :: r) ↔ v.Commits e ∨ (v.happen e).CommitsDuring r := by
  constructor
  · rintro ⟨before, e', after, split, commits⟩
    cases before with
    | nil =>
      obtain ⟨rfl, rfl⟩ := List.cons.inj split
      exact .inl commits
    | cons b before =>
      obtain ⟨rfl, rfl⟩ := List.cons.inj split
      exact .inr ⟨before, e', after, rfl, commits⟩
  · rintro (commits | ⟨before, e', after, rfl, commits⟩)
    · exact ⟨[], e, r, rfl, commits⟩
    · exact ⟨e :: before, e', after, rfl, commits⟩

end World

/-! ## What commits do to the active snapshot -/

/-- How one store comes from another: by commits, and then its active snapshot is a later
    one, or without, and then it is the same. -/
structure Advances (commits : Prop) (s t : Store α ρ) : Prop where
  later : commits → s.active.commit < t.active.commit
  same : ¬ commits → t.active = s.active

section Advances

omit [Quantity α] [Row ρ α]

variable {C D : Prop} {s t u : Store α ρ}

theorem advances_of_not (h : ¬ C) (same : t.active = s.active) : Advances C s t :=
  ⟨fun c => absurd c h, fun _ => same⟩

theorem advances_installed (h : C) (s : Store α ρ) (p : ParamSet α ρ) :
    Advances C s (s.installed p) :=
  ⟨fun _ => Nat.lt_succ_self _, fun c => absurd h c⟩

theorem Advances.le (h : Advances C s t) : s.active.commit ≤ t.active.commit := by
  by_cases c : C
  · exact Nat.le_of_lt (h.later c)
  · rw [h.same c]

theorem Advances.trans (first : Advances C s t) (second : Advances D t u) :
    Advances (C ∨ D) s u where
  later := by
    rintro (c | d)
    · exact Nat.lt_of_lt_of_le (first.later c) second.le
    · exact Nat.lt_of_le_of_lt first.le (second.later d)
  same h := (second.same fun d => h (.inr d)).trans (first.same fun c => h (.inl c))

theorem Advances.congr (same : C ↔ D) (h : Advances C s t) : Advances D s t :=
  ⟨fun d => h.later (same.2 d), fun d => h.same (mt same.1 d)⟩

theorem Advances.commit_eq_iff (h : Advances C s t) :
    s.active.commit = t.active.commit ↔ ¬ C :=
  ⟨fun e c => Nat.ne_of_lt (h.later c) e, fun c => by rw [h.same c]⟩

end Advances

theorem advances_write (s : Store α ρ) (w : Write) :
    Advances (s.CarriesOut w) s (s.write w).1 := by
  rcases s.write_cases w with ⟨left, answer⟩ | ⟨c, p, -, -, asks, left, answer⟩
  · exact advances_of_not (fun h => h.1 (answer.1 h.2)) (by rw [left])
  · exact left ▸ advances_installed ⟨asks, answer⟩ s p

theorem advances_updates (s : Store α ρ) (ts : List (Option String)) :
    Advances (s.CarriesOutOneOf ts) s (s.updates ts).1 := by
  induction ts generalizing s with
  | nil => exact advances_of_not id rfl
  | cons t r ih =>
    have first := s.advances_write (.update t)
    cases answered : (s.update t).2.outcome with
    | error e =>
      have stops : (s.updates (t :: r)).1 = (s.update t).1 := by
        simp only [updates, answered]
      rw [stops]
      refine first.congr ⟨.inl, fun h => h.elim id ?_⟩
      rintro ⟨answer, ok, -⟩
      rw [answered] at ok
      cases ok
    | ok answer =>
      have goesOn : (s.updates (t :: r)).1 = ((s.update t).1.updates r).1 := by
        simp only [updates, answered]
      rw [goesOn]
      refine (first.trans (ih (s.update t).1)).congr (or_congr_right ⟨fun h => ?_, ?_⟩)
      · exact ⟨answer, answered, h⟩
      · rintro ⟨-, -, h⟩
        exact h

/-- A commit that is disturbed once installs a set over what the others have left, or it
    leaves that. -/
theorem commitAmid_cases (derive : Derivation α ρ) (s s' : Store α ρ) :
    (∃ p, (commitAmid derive [fun _ => s'] s).result = .ok p
        ∧ (commitAmid derive [fun _ => s'] s).store = s'.installed p)
      ∨ ∃ r, (commitAmid derive [fun _ => s'] s).result = .error r
        ∧ (commitAmid derive [fun _ => s'] s).store = s' := by
  cases derived : candidate derive s.active.params with
  | error r =>
    rw [commitAmid_rejected derived]
    exact .inr ⟨r, rfl, rfl⟩
  | ok p =>
    by_cases same : s'.active.commit = s.active.commit
    · rw [commitAmid_accepted derived same]
      exact .inl ⟨p, rfl, rfl⟩
    · cases again : candidate derive s'.active.params with
      | ok q =>
        rw [commitAmid_retried derived same again]
        exact .inl ⟨q, rfl, rfl⟩
      | error r =>
        rw [commitAmid_lost derived same again]
        exact .inr ⟨r, rfl, rfl⟩

/-- A commit succeeds if it installs its candidate. -/
theorem advances_commitAfter (derive : Derivation α ρ) (s : Store α ρ)
    (disturbed : Store α ρ × Logged Fault (List Bool)) :
    Advances (∃ report p, (commitAfter derive disturbed s).2.outcome = .ok report
        ∧ report.commit.result = .ok p)
      disturbed.1 (commitAfter derive disturbed s).1 := by
  cases answered : disturbed.2.outcome with
  | error e =>
    simp only [commitAfter, answered]
    exact advances_of_not (by simp) rfl
  | ok answers =>
    simp only [commitAfter, answered]
    rcases commitAmid_cases derive s disturbed.1 with ⟨p, result, left⟩ | ⟨r, result, left⟩
    · rw [left]
      refine advances_installed ⟨⟨answers, commitAmid derive [fun _ => disturbed.1] s⟩, p, ?_⟩ _ p
      simp only [result, and_self]
    · rw [left]
      refine advances_of_not ?_ rfl
      rintro ⟨report, p, ok, accepted⟩
      simp only [result] at ok
      cases misfit : r.misfit? with
      | some m =>
        rw [misfit] at ok
        cases ok
      | none =>
        rw [misfit] at ok
        obtain rfl := Except.ok.inj ok
        cases result.symm.trans accepted

theorem advances_commitDuring (s : Store α ρ) (outer : String) (inner : List (Option String)) :
    Advances (s.CarriesOutOneOf inner
        ∨ ∃ report p, (s.commitDuring outer inner).2.outcome = .ok report
          ∧ report.commit.result = .ok p)
      s (s.commitDuring outer inner).1 :=
  (s.advances_updates inner).trans
    (advances_commitAfter (Override.parse outer) s (s.updates inner))

theorem advances_step (v : World α ρ) (i : Nat) :
    Advances (v.Commits (.turn i)) v.store (v.step i).store := by
  cases found : v.writers[i]? with
  | none =>
    rw [World.step, found]
    exact advances_of_not (by simp [World.Commits, found]) rfl
  | some w =>
    have commits : v.Commits (.turn i) ↔ (∀ answer, w.phase ≠ .finished answer)
        ∧ (w.step v.store).1.phase = .finished true := by
      simp [World.Commits, found]
    rw [World.step_of_found found]
    refine Advances.congr commits.symm ?_
    have steps := w.steps v.store
    generalize w.step v.store = next at steps ⊢
    cases steps with
    | read phase => exact advances_of_not (by simp) rfl
    | accepted phase derived => exact advances_of_not (by simp) rfl
    | rejected phase derived => exact advances_of_not (by simp) rfl
    | swapped phase same => exact advances_installed (by simp [phase]) v.store _
    | overtaken phase other => exact advances_of_not (by simp) rfl
    | rested phase => exact advances_of_not (fun h => h.1 _ phase) rfl

/-- **An event that commits makes a later snapshot active, and no other event does.** -/
theorem advances_happen (v : World α ρ) (e : Event) :
    Advances (v.Commits e) v.store (v.happen e).store := by
  cases e with
  | operation o =>
    cases o with
    | write w => exact v.store.advances_write w
    | commitDuring outer inner => exact v.store.advances_commitDuring outer inner
    | setWeights weights => exact advances_of_not id rfl
  | enter w =>
    refine advances_of_not id ?_
    simp only [World.happen]
    split <;> rfl
  | turn i => exact advances_step v i
  | answers source => exact advances_of_not id rfl

theorem advances_session (v : World α ρ) (events : List Event) :
    Advances (v.CommitsDuring events) v.store (v.session events).store := by
  induction events generalizing v with
  | nil => exact advances_of_not (by simp [World.CommitsDuring]) rfl
  | cons e r ih =>
    exact ((advances_happen v e).trans (ih (v.happen e))).congr World.commitsDuring_cons_iff.symm

/-- **The number of the active snapshot tells whether there was a commit.** -/
theorem commit_session_eq_iff (v : World α ρ) (events : List Event) :
    v.store.active.commit = (v.session events).store.active.commit ↔ ¬ v.CommitsDuring events :=
  (advances_session v events).commit_eq_iff

end RoamTuning.Store
