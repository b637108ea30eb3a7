import RoamTuning.Store.Contention

/-!
# Histories of a store

What can happen to a store after it was built, one operation after the other:
writes, commits disturbed by other updates, and new tables of weights. Reading
changes nothing and is no operation.

Results:

* `run_append`: a history is run piece by piece.
* `sameSetup_run`: what no history changes.
-/

namespace RoamTuning.Store

variable {α ρ : Type} [Quantity α] [Row ρ α]

/-- What can happen to a store. -/
inductive Operation where
  | write (w : Write)
  /-- A commit during whose first attempt other updates are carried out. -/
  | commitDuring (outer : String) (inner : List (Option String))
  | setWeights (weights : List (Int × Value))

/-- The store after an operation. -/
def apply (s : Store α ρ) : Operation → Store α ρ
  | .write w => (s.write w).1
  | .commitDuring outer inner => (s.commitDuring outer inner).1
  | .setWeights weights => s.setWeights weights

/-- The store after a history. -/
def run (s : Store α ρ) (history : List Operation) : Store α ρ :=
  history.foldl apply s

theorem run_append (s : Store α ρ) (first second : List Operation) :
    s.run (first ++ second) = (s.run first).run second := by
  simp [run, List.foldl_append]

/-! ## What no operation changes -/

/-- What stays the same in a store for good: where defaults are read from, and
    whether weights count. -/
def SameSetup (s t : Store α ρ) : Prop :=
  t.source = s.source ∧ t.weightsSupported = s.weightsSupported

omit [Quantity α] [Row ρ α] in
theorem SameSetup.refl (s : Store α ρ) : SameSetup s s := ⟨rfl, rfl⟩

omit [Quantity α] [Row ρ α] in
theorem SameSetup.trans {s t u : Store α ρ} (h : SameSetup s t) (h' : SameSetup t u) :
    SameSetup s u := ⟨h'.1.trans h.1, h'.2.trans h.2⟩

omit [Quantity α] [Row ρ α] in
theorem sameSetup_install? {s t : Store α ρ} {base : Snapshot α ρ} {p : ParamSet α ρ}
    (h : s.install? base p = some t) : SameSetup s t := by
  unfold install? at h
  split at h
  · exact Option.some.inj h ▸ ⟨rfl, rfl⟩
  · cases h

theorem sameSetup_commit {s t : Store α ρ} {derive : Derivation α ρ}
    (h : s.commit derive = .ok t) : SameSetup s t := by
  rw [commit_eq] at h
  cases hc : candidate derive s.active.params with
  | error e => rw [hc] at h; cases h
  | ok p => rw [hc] at h; exact Except.ok.inj h ▸ ⟨rfl, rfl⟩

theorem sameSetup_carryOut (s : Store α ρ) (p : Plan α ρ) : SameSetup s (s.carryOut p).1 := by
  cases p with
  | done answer => exact .refl s
  | commit c =>
    simp only [carryOut]
    split
    · rename_i t h
      exact sameSetup_commit h
    · exact .refl s

theorem sameSetup_write (s : Store α ρ) (w : Write) : SameSetup s (s.write w).1 := by
  simp only [write]
  split
  · exact .refl s
  · exact sameSetup_carryOut s _

theorem sameSetup_updates (s : Store α ρ) (ts : List (Option String)) :
    SameSetup s (s.updates ts).1 := by
  induction ts generalizing s with
  | nil => exact .refl s
  | cons t r ih =>
    have first : SameSetup s (s.update t).1 := sameSetup_write s (.update t)
    simp only [updates]
    split
    · exact first
    · exact first.trans (ih _)

theorem sameSetup_commitAmid (derive : Derivation α ρ) {others : List (Store α ρ → Store α ρ)}
    {s t : Store α ρ} (start : SameSetup s t)
    (h : ∀ act ∈ others, ∀ u, SameSetup s u → SameSetup s (act u)) :
    SameSetup s (commitAmid derive others t).store := by
  induction others generalizing t with
  | nil =>
    simp only [commitAmid]
    split
    · exact start
    · simp only [install?_self, Option.getD_some]
      exact start.trans ⟨rfl, rfl⟩
  | cons act rest ih =>
    have first : SameSetup s (act t) := h act (by simp) t start
    simp only [commitAmid]
    split
    · exact first
    · split
      · rename_i hi
        exact first.trans (sameSetup_install? hi)
      · exact ih first fun a ha => h a (by simp [ha])

theorem sameSetup_commitAfter (derive : Derivation α ρ) {s : Store α ρ}
    {disturbed : Store α ρ × Logged Fault (List Bool)} (h : SameSetup s disturbed.1) :
    SameSetup s (commitAfter derive disturbed s).1 := by
  simp only [commitAfter]
  split
  · exact h
  · refine sameSetup_commitAmid derive (.refl s) fun act ha u _ => ?_
    rw [List.mem_singleton] at ha
    exact ha ▸ h

theorem sameSetup_apply (s : Store α ρ) (o : Operation) : SameSetup s (s.apply o) := by
  cases o with
  | write w => exact sameSetup_write s w
  | commitDuring outer inner => exact sameSetup_commitAfter _ (sameSetup_updates s inner)
  | setWeights weights => exact ⟨rfl, rfl⟩

theorem sameSetup_run (s : Store α ρ) (history : List Operation) : SameSetup s (s.run history) := by
  induction history generalizing s with
  | nil => exact .refl s
  | cons o r ih => exact (sameSetup_apply s o).trans (ih _)

end RoamTuning.Store
