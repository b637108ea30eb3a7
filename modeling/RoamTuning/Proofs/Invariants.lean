import RoamTuning.Proofs.Writes
import RoamTuning.Store.History
import RoamTuning.Store.Writers

/-!
# What writes keep

A store has one set after the other, each derived from one before. So a property of
parameter sets is kept for good if every derivation keeps it that a write can ask for:
by whole operations, and by writers that take their steps side by side, where a set may
be installed that was derived long before.

Results:

* `Invariant.write`, `Invariant.apply`: an invariant holds after every operation.
* `Writer.steps`: what the next step of a writer comes to.
* `Invariant.step`: an invariant holds after every step of a writer.
* `soundness`: soundness is an invariant.
-/

namespace RoamTuning.Store

variable {α ρ : Type} [Quantity α] [Row ρ α] {D : Derivation α ρ → Prop}
  {I : ParamSet α ρ → Prop}

/-- A property of parameter sets that derivations of some kind keep, and all that
    writes ask for are of that kind. -/
structure Invariant (D : Derivation α ρ → Prop) (I : ParamSet α ρ → Prop) : Prop where
  requested : ∀ {derive : Derivation α ρ}, Requested derive → D derive
  kept : ∀ {derive : Derivation α ρ} {base p : ParamSet α ρ}, D derive → I base →
    candidate derive base = .ok p → I p

/-! ## Whole operations -/

theorem Invariant.write (inv : Invariant D I) {s : Store α ρ} (h : I s.active.params)
    (w : Write) : I (s.write w).1.active.params := by
  cases plan : (w.plan s.source : Logged Fault (Plan α ρ)).outcome with
  | error e => rwa [(write_of_fault plan).1]
  | ok p =>
    cases p with
    | done answer => rwa [(write_of_done plan).1]
    | commit c =>
      cases derived : candidate c.derive s.active.params with
      | ok p =>
        rw [(write_of_accepted plan derived).1]
        exact inv.kept (inv.requested (requested_of_plan plan)) h derived
      | error r => rwa [(write_of_refused plan derived).1]

theorem Invariant.updates (inv : Invariant D I) {s : Store α ρ} (h : I s.active.params)
    (ts : List (Option String)) : I (s.updates ts).1.active.params := by
  induction ts generalizing s with
  | nil => exact h
  | cons t r ih =>
    have first : I (s.update t).1.active.params := inv.write h (.update t)
    simp only [Store.updates]
    split
    · exact first
    · exact ih first

/-- A commit keeps an invariant in the midst of others that do so. -/
theorem Invariant.commitAmid (inv : Invariant D I) {derive : Derivation α ρ} (kind : D derive)
    {others : List (Store α ρ → Store α ρ)}
    (acts : ∀ act ∈ others, ∀ t : Store α ρ, I t.active.params → I (act t).active.params)
    {s : Store α ρ} (h : I s.active.params) :
    I (Store.commitAmid derive others s).store.active.params := by
  induction others generalizing s with
  | nil =>
    simp only [Store.commitAmid]
    split
    · exact h
    · rename_i p derived
      rw [install?_self]
      exact inv.kept kind h derived
  | cons act rest ih =>
    have acted : I (act s).active.params := acts act List.mem_cons_self s h
    simp only [Store.commitAmid]
    split
    · exact acted
    · rename_i p derived
      -- the candidate comes from the store before the others acted
      have candidate : I p := inv.kept kind h derived
      unfold install?
      split
      · rename_i installed
        split at installed
        · exact Option.some.inj installed ▸ candidate
        · cases installed
      · exact ih (fun a ha => acts a (List.mem_cons_of_mem _ ha)) acted

theorem Invariant.commitDuring (inv : Invariant D I) {s : Store α ρ} (h : I s.active.params)
    (outer : String) (inner : List (Option String)) :
    I (s.commitDuring outer inner).1.active.params := by
  have disturbed : I (s.updates inner).1.active.params := inv.updates h inner
  simp only [Store.commitDuring, commitAfter]
  split
  · exact disturbed
  · refine inv.commitAmid (inv.requested (.text outer)) (fun act ha t _ => ?_) h
    rw [List.mem_singleton] at ha
    exact ha ▸ disturbed

theorem Invariant.apply (inv : Invariant D I) {s : Store α ρ} (h : I s.active.params)
    (o : Operation) : I (s.apply o).active.params := by
  cases o with
  | write w => exact inv.write h w
  | commitDuring outer inner => exact inv.commitDuring h outer inner
  | setWeights weights => exact h

/-! ## Steps of writers -/

namespace Writer

variable {w : Writer α ρ} {s : Store α ρ} {c : Change α ρ} {base : Snapshot α ρ}
  {p : ParamSet α ρ}

theorem step_reading (h : w.phase = .reading c) :
    w.step s = ({ w with phase := .deciding c s.active }, s, false) := by
  simp only [step, h]

theorem step_accepted (h : w.phase = .deciding c base)
    (hc : candidate c.derive base.params = .ok p) :
    w.step s = (⟨.swapping c base p, w.derivations + 1⟩, s, false) := by
  simp only [step, h, hc]

theorem step_rejected {r : Rejection} (h : w.phase = .deciding c base)
    (hc : candidate c.derive base.params = .error r) :
    w.step s = (⟨.finished false, w.derivations + 1⟩, s, false) := by
  simp only [step, h, hc]

theorem step_swapped (h : w.phase = .swapping c base p) (same : s.active.commit = base.commit) :
    w.step s = ({ w with phase := .finished true }, s.installed p, true) := by
  have swap : s.install? base p = some (s.installed p) := by
    rw [install?, if_pos same, installed, same]
  simp only [step, h, swap]

theorem step_overtaken (h : w.phase = .swapping c base p) (other : s.active.commit ≠ base.commit) :
    w.step s = ({ w with phase := .reading c }, s, false) := by
  have swap : s.install? base p = none := by rw [install?, if_neg other]
  simp only [step, h, swap]

/-- What the next step of a writer can come to. -/
inductive Steps (w : Writer α ρ) (s : Store α ρ) : Writer α ρ × Store α ρ × Bool → Prop
  | read {c : Change α ρ} (phase : w.phase = .reading c) :
      Steps w s ({ w with phase := .deciding c s.active }, s, false)
  | accepted {c : Change α ρ} {base : Snapshot α ρ} {p : ParamSet α ρ}
      (phase : w.phase = .deciding c base) (derived : candidate c.derive base.params = .ok p) :
      Steps w s (⟨.swapping c base p, w.derivations + 1⟩, s, false)
  | rejected {c : Change α ρ} {base : Snapshot α ρ} {r : Rejection}
      (phase : w.phase = .deciding c base) (derived : candidate c.derive base.params = .error r) :
      Steps w s (⟨.finished false, w.derivations + 1⟩, s, false)
  | swapped {c : Change α ρ} {base : Snapshot α ρ} {p : ParamSet α ρ}
      (phase : w.phase = .swapping c base p) (same : s.active.commit = base.commit) :
      Steps w s ({ w with phase := .finished true }, s.installed p, true)
  | overtaken {c : Change α ρ} {base : Snapshot α ρ} {p : ParamSet α ρ}
      (phase : w.phase = .swapping c base p) (other : s.active.commit ≠ base.commit) :
      Steps w s ({ w with phase := .reading c }, s, false)
  | rested {answer : Bool} (phase : w.phase = .finished answer) : Steps w s (w, s, false)

theorem steps (w : Writer α ρ) (s : Store α ρ) : w.Steps s (w.step s) := by
  cases phase : w.phase with
  | reading c => exact step_reading phase ▸ .read phase
  | deciding c base =>
    cases derived : candidate c.derive base.params with
    | ok p => exact step_accepted phase derived ▸ .accepted phase derived
    | error r => exact step_rejected phase derived ▸ .rejected phase derived
  | swapping c base p =>
    by_cases same : s.active.commit = base.commit
    · exact step_swapped phase same ▸ .swapped phase same
    · exact step_overtaken phase same ▸ .overtaken phase same
  | finished answer => exact step_finished phase s ▸ .rested phase

end Writer

theorem World.step_of_found {v : World α ρ} {i : Nat} {w : Writer α ρ}
    (h : v.writers[i]? = some w) :
    v.step i = ⟨(w.step v.store).2.1, v.writers.set i (w.step v.store).1,
      if (w.step v.store).2.2 then v.order ++ [i] else v.order⟩ := by
  rw [step, h]

/-- No step changes where defaults are read from. -/
theorem Writer.source_step (w : Writer α ρ) (s : Store α ρ) :
    (w.step s).2.1.source = s.source := by
  have steps := w.steps s
  generalize w.step s = next at steps ⊢
  cases steps with
  | _ => rfl

theorem World.source_step (v : World α ρ) (i : Nat) : (v.step i).store.source = v.store.source := by
  unfold World.step
  split
  · rfl
  · rename_i w _
    exact w.source_step v.store

/-- What is known of a writer between two steps: what it derives is of the kind, and the
    set that it holds has the property. -/
def Phase.Keeps (D : Derivation α ρ → Prop) (I : ParamSet α ρ → Prop) : Phase α ρ → Prop
  | .reading c => D c.derive
  | .deciding c base => D c.derive ∧ I base.params
  | .swapping c _ p => D c.derive ∧ I p
  | .finished _ => True

theorem Phase.Keeps.step (inv : Invariant D I) {w : Writer α ρ} {s : Store α ρ}
    (hw : w.phase.Keeps D I) (hs : I s.active.params) :
    (w.step s).1.phase.Keeps D I ∧ I (w.step s).2.1.active.params := by
  have steps := w.steps s
  generalize w.step s = next at steps ⊢
  cases steps with
  | read phase =>
    rw [phase] at hw
    exact ⟨⟨hw, hs⟩, hs⟩
  | accepted phase derived =>
    rw [phase] at hw
    obtain ⟨kind, held⟩ := hw
    exact ⟨⟨kind, inv.kept kind held derived⟩, hs⟩
  | rejected phase derived => exact ⟨trivial, hs⟩
  | swapped phase same =>
    rw [phase] at hw
    exact ⟨trivial, hw.2⟩
  | overtaken phase other =>
    rw [phase] at hw
    exact ⟨hw.1, hs⟩
  | rested phase => exact ⟨hw, hs⟩

/-- What is known of a store and its writers between two steps. -/
structure World.Keeps (D : Derivation α ρ → Prop) (I : ParamSet α ρ → Prop) (v : World α ρ) :
    Prop where
  store : I v.store.active.params
  writers : ∀ w ∈ v.writers, w.phase.Keeps D I

theorem Invariant.step (inv : Invariant D I) {v : World α ρ} (h : v.Keeps D I) (i : Nat) :
    (v.step i).Keeps D I := by
  cases found : v.writers[i]? with
  | none => rwa [World.step, found]
  | some w =>
    rw [World.step_of_found found]
    obtain ⟨phase, store⟩ := (h.writers w (List.mem_of_getElem? found)).step inv h.store
    refine ⟨store, fun w' hw' => ?_⟩
    rcases List.mem_or_eq_of_mem_set hw' with old | rfl
    · exact h.writers w' old
    · exact phase

/-- A writer that sets out to carry out a write will keep every invariant. -/
theorem Invariant.ofPlan (inv : Invariant D I) {source : Option Source} {w : Write}
    {p : Plan α ρ} (h : (w.plan source).outcome = .ok p) : (Writer.ofPlan p).phase.Keeps D I := by
  cases p with
  | done answer => exact trivial
  | commit c => exact inv.requested (requested_of_plan h)

/-! ## Soundness -/

/-- Soundness is an invariant: what comes to the same on all sound sets keeps it. -/
theorem soundness :
    Invariant (fun derive => ∃ verdict, Uniform derive verdict) ParamSet.Sound where
  requested h := h.exists_uniform
  kept := fun ⟨_, uniform⟩ sound derived => uniform.sound sound derived

theorem sound_write {s : IntStore} (h : s.Sound) (w : Write) : (s.write w).1.Sound :=
  soundness.write h w

theorem sound_updates {s : IntStore} (h : s.Sound) (ts : List (Option String)) :
    (s.updates ts).1.Sound :=
  soundness.updates h ts

end RoamTuning.Store
