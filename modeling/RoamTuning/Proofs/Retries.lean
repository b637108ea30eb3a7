import RoamTuning.Proofs.Overtaking

/-!
# How often a commit starts again

A writer starts again only if another one has swapped since it has read. A writer swaps
once, so there are never more attempts than writers, whatever is derived and whoever
comes next.

Results:

* `tallied_step`: every derivation beyond the first is paid for by a swap.
* `Tallied.derivations_le`: so there are no more derivations than writers.
* `overtaken_and_bounded`: why a swap fails, and how often a candidate is derived.
-/

namespace RoamTuning.Store

variable {α ρ : Type}

/-! ## What is paid for -/

/-- What is known of a writer that has derived some candidates, in a store whose first
    snapshot has the number `first` and that has seen some swaps: all its derivations
    but the one for the base that it holds are paid for by swaps. -/
def Phase.Paid (first swaps derivations : Nat) : Phase α ρ → Prop
  | .reading _ => derivations ≤ swaps
  | .deciding _ base => first + derivations ≤ base.commit ∧ base.commit ≤ first + swaps
  | .swapping _ base _ => first + derivations ≤ base.commit + 1 ∧ base.commit ≤ first + swaps
  | .finished answer => derivations ≤ if answer then swaps else swaps + 1

theorem Phase.Paid.mono {first swaps more derivations : Nat} {x : Phase α ρ}
    (h : x.Paid first swaps derivations) (le : swaps ≤ more) : x.Paid first more derivations := by
  unfold Paid at h ⊢
  cases x with
  | reading c => exact Nat.le_trans h le
  | deciding c base => exact ⟨h.1, by have := h.2; omega⟩
  | swapping c base p => exact ⟨h.1, by have := h.2; omega⟩
  | finished answer =>
    cases answer with
    | true => exact Nat.le_trans h le
    | false => exact Nat.le_trans h (Nat.succ_le_succ le)

theorem Phase.Paid.le_succ {first swaps derivations : Nat} {x : Phase α ρ}
    (h : x.Paid first swaps derivations) : derivations ≤ swaps + 1 := by
  unfold Paid at h
  cases x with
  | reading c => exact Nat.le_succ_of_le h
  | deciding c base =>
    obtain ⟨derived, le⟩ := h
    omega
  | swapping c base p =>
    obtain ⟨derived, le⟩ := h
    omega
  | finished answer =>
    cases answer with
    | true => exact Nat.le_succ_of_le h
    | false => exact h

/-- There are at most as many distinct numbers as their bound says. -/
theorem length_le_of_nodup_of_lt {js : List Nat} {n : Nat} (nodup : js.Nodup)
    (lt : ∀ j ∈ js, j < n) : js.length ≤ n := by
  have inside : js ⊆ List.range n := fun j hj => List.mem_range.2 (lt j hj)
  have le := (List.subperm_of_subset nodup inside).length_le
  rwa [List.length_range] at le

namespace World

/-- What holds between two steps: the commits are those of the swaps, no writer has
    swapped twice, and every writer has paid for its derivations. -/
structure Tallied (s : Store α ρ) (v : World α ρ) : Prop where
  commit_eq : v.store.active.commit = s.active.commit + v.order.length
  nodup : v.order.Nodup
  swapped : ∀ i ∈ v.order, ∃ w, v.writers[i]? = some w ∧ w.phase = .finished true
  paid : ∀ (i : Nat) (w : Writer α ρ), v.writers[i]? = some w →
    w.phase.Paid s.active.commit v.order.length w.derivations

/-- A step without a swap moves one writer only. -/
theorem Tallied.moved {s : Store α ρ} {v : World α ρ} (h : v.Tallied s) {i : Nat}
    {w w' : Writer α ρ} (found : v.writers[i]? = some w)
    (kept : w.phase = .finished true → w'.phase = .finished true)
    (paid : w'.phase.Paid s.active.commit v.order.length w'.derivations) :
    World.Tallied s ⟨v.store, v.writers.set i w', v.order⟩ := by
  refine ⟨h.commit_eq, h.nodup, fun j hj => ?_, fun j x hx => ?_⟩
  · obtain ⟨x, hx, accepted⟩ := h.swapped j hj
    by_cases same : i = j
    · subst same
      obtain rfl := Option.some.inj (found.symm.trans hx)
      exact ⟨w', List.getElem?_set_self (List.getElem?_eq_some_iff.1 found).1, kept accepted⟩
    · exact ⟨x, (List.getElem?_set_ne same).trans hx, accepted⟩
  · rcases of_getElem?_set_eq_some hx with ⟨rfl, rfl⟩ | ⟨-, hx⟩
    · exact paid
    · exact h.paid j x hx

/-- A swap pays for one more derivation of every other writer. -/
theorem Tallied.swap {s : Store α ρ} {v : World α ρ} (h : v.Tallied s) {i : Nat}
    {w : Writer α ρ} (found : v.writers[i]? = some w) {c : Change α ρ} {base : Snapshot α ρ}
    {p : ParamSet α ρ} (phase : w.phase = .swapping c base p)
    (same : v.store.active.commit = base.commit) :
    World.Tallied s ⟨v.store.installed p, v.writers.set i { w with phase := .finished true },
      v.order ++ [i]⟩ := by
  have new : i ∉ v.order := by
    intro old
    obtain ⟨x, hx, accepted⟩ := h.swapped i old
    obtain rfl := Option.some.inj (found.symm.trans hx)
    rw [phase] at accepted
    cases accepted
  have bound : i < v.writers.length := (List.getElem?_eq_some_iff.1 found).1
  have commits := h.commit_eq
  refine ⟨?_, ?_, fun j hj => ?_, fun j x hx => ?_⟩
  · show v.store.active.commit + 1 = s.active.commit + (v.order ++ [i]).length
    rw [List.length_append, List.length_singleton]
    omega
  · exact List.nodup_append.2 ⟨h.nodup, List.nodup_singleton i, by
      rintro a ha b hb rfl
      exact new (List.mem_singleton.1 hb ▸ ha)⟩
  · by_cases own : i = j
    · subst own
      exact ⟨_, List.getElem?_set_self bound, rfl⟩
    · have old : j ∈ v.order := by
        rcases List.mem_append.1 hj with old | last
        · exact old
        · exact absurd (List.mem_singleton.1 last).symm own
      obtain ⟨x, hx, accepted⟩ := h.swapped j old
      exact ⟨x, (List.getElem?_set_ne own).trans hx, accepted⟩
  · rw [List.length_append, List.length_singleton]
    rcases of_getElem?_set_eq_some hx with ⟨rfl, rfl⟩ | ⟨-, hx⟩
    · have paid := h.paid j w found
      rw [phase] at paid
      obtain ⟨derived, -⟩ := paid
      show w.derivations ≤ v.order.length + 1
      omega
    · exact (h.paid j x hx).mono (Nat.le_succ _)

variable [Quantity α] [Row ρ α]

/-- **Every derivation beyond the first is paid for by a swap of another writer**, and
    every step keeps to that. -/
theorem tallied_step {s : Store α ρ} {v : World α ρ} (h : v.Tallied s) (i : Nat) :
    (v.step i).Tallied s := by
  cases found : v.writers[i]? with
  | none => rwa [step, found]
  | some w =>
    rw [step_of_found found]
    have paid := h.paid i w found
    have commits := h.commit_eq
    have steps := w.steps v.store
    generalize w.step v.store = next at steps ⊢
    cases steps with
    | read phase =>
      rw [phase] at paid
      have derived : w.derivations ≤ v.order.length := paid
      refine h.moved found (by simp [phase]) ?_
      show s.active.commit + w.derivations ≤ v.store.active.commit
        ∧ v.store.active.commit ≤ s.active.commit + v.order.length
      omega
    | @accepted c base p phase result =>
      rw [phase] at paid
      obtain ⟨derived, le⟩ := paid
      refine h.moved found (by simp [phase]) ?_
      show s.active.commit + (w.derivations + 1) ≤ base.commit + 1
        ∧ base.commit ≤ s.active.commit + v.order.length
      omega
    | @rejected c base r phase result =>
      rw [phase] at paid
      obtain ⟨derived, le⟩ := paid
      refine h.moved found (by simp [phase]) ?_
      show w.derivations + 1 ≤ v.order.length + 1
      omega
    | swapped phase same => exact h.swap found phase same
    | @overtaken c base p phase other =>
      rw [phase] at paid
      obtain ⟨derived, le⟩ := paid
      refine h.moved found (by simp [phase]) ?_
      -- the base is not the active set, so there was a swap after it was read
      show w.derivations ≤ v.order.length
      omega
    | rested phase => exact h.moved found id paid

theorem tallied_run {s : Store α ρ} {v : World α ρ} (h : v.Tallied s) (schedule : List Nat) :
    (v.run schedule).Tallied s := by
  induction schedule generalizing v with
  | nil => exact h
  | cons i r ih => exact ih (tallied_step h i)

omit [Quantity α] [Row ρ α] in
/-- There are no more derivations than writers. -/
theorem Tallied.derivations_le {s : Store α ρ} {v : World α ρ} (h : v.Tallied s) {w : Writer α ρ}
    (hw : w ∈ v.writers) : w.derivations ≤ v.writers.length := by
  obtain ⟨i, found⟩ := List.mem_iff_getElem?.1 hw
  have numbers : ∀ j ∈ v.order, j < v.writers.length := by
    intro j hj
    obtain ⟨x, hx, -⟩ := h.swapped j hj
    exact (List.getElem?_eq_some_iff.1 hx).1
  have paid := h.paid i w found
  by_cases own : i ∈ v.order
  · obtain ⟨x, hx, accepted⟩ := h.swapped i own
    obtain rfl := Option.some.inj (found.symm.trans hx)
    rw [accepted] at paid
    have derived : w.derivations ≤ v.order.length := paid
    exact Nat.le_trans derived (length_le_of_nodup_of_lt h.nodup numbers)
  · have others : (i :: v.order).length ≤ v.writers.length := by
      refine length_le_of_nodup_of_lt (List.nodup_cons.2 ⟨own, h.nodup⟩) ?_
      exact List.forall_mem_cons.2 ⟨(List.getElem?_eq_some_iff.1 found).1, numbers⟩
    rw [List.length_cons] at others
    exact Nat.le_trans paid.le_succ others

/-! ## Commits side by side -/

/-- The world in which some changes are about to be committed to a store. -/
def ofChanges (s : Store α ρ) (changes : List (Change α ρ)) : World α ρ :=
  .start s (changes.map .commit)

omit [Quantity α] [Row ρ α] in
theorem mem_writers_ofChanges {s : Store α ρ} {changes : List (Change α ρ)} {w : Writer α ρ}
    (h : w ∈ (ofChanges s changes).writers) : ∃ c, w = ⟨.reading c, 0⟩ := by
  simp only [ofChanges, start, List.map_map, List.mem_map] at h
  obtain ⟨c, -, rfl⟩ := h
  exact ⟨c, rfl⟩

omit [Quantity α] [Row ρ α] in
theorem tallied_ofChanges (s : Store α ρ) (changes : List (Change α ρ)) :
    (ofChanges s changes).Tallied s := by
  refine ⟨rfl, List.nodup_nil, fun i hi => absurd hi List.not_mem_nil, fun i w found => ?_⟩
  obtain ⟨c, rfl⟩ := mem_writers_ofChanges (List.mem_of_getElem? found)
  exact Nat.zero_le _

/-- **Retries are bounded.** However the steps of some commits are interleaved, whatever
    they derive, a swap fails only if another writer has swapped since the last time
    that its writer has read, and no writer derives a candidate more often than there
    are writers. -/
theorem overtaken_and_bounded (s : Store α ρ) (changes : List (Change α ρ))
    (schedule : List Nat) :
    let v := ofChanges s changes
    (∀ i, (v.run schedule).move? i = some .miss →
      ∃ before between, schedule = before ++ i :: between ∧ v.LastRead i before between
        ∧ ∃ mid j rest, between = mid ++ j :: rest ∧ j ≠ i
          ∧ (v.run (before ++ i :: mid)).move? j = some .swap)
    ∧ ∀ w ∈ (v.run schedule).writers, w.derivations ≤ changes.length := by
  intro v
  have fresh : ∀ w ∈ v.writers, w.phase.base? = none := by
    intro w hw
    obtain ⟨c, rfl⟩ := mem_writers_ofChanges hw
    rfl
  constructor
  · intro i misses
    exact overtaken_of_miss fresh misses
  · intro w hw
    have length : (v.run schedule).writers.length = changes.length := by
      rw [length_writers_run]
      simp [v, ofChanges, start]
    rw [← length]
    exact (tallied_run (tallied_ofChanges s changes) schedule).derivations_le hw

/-- Changes of which the second is committed while the first one is being derived. -/
def rivals : List (Change Int (List Int)) :=
  ["nud=3", "horizon=20"].map fun text => ⟨Override.parse text, "", none⟩

/-- The first writer misses and derives a second candidate, as often as it can happen to
    one of two writers. -/
theorem overtaken_rivals :
    let v := ofChanges unsourced rivals
    (v.run [0, 1, 0, 1, 1]).move? 0 = some .miss
      ∧ (∃ before between, [0, 1, 0, 1, 1] = before ++ 0 :: between ∧ v.LastRead 0 before between
        ∧ ∃ mid j rest, between = mid ++ j :: rest ∧ j ≠ 0
          ∧ (v.run (before ++ 0 :: mid)).move? j = some .swap)
      ∧ (v.run [0, 1, 0, 1, 1, 0, 0, 0, 0]).writers.map (·.derivations) = [2, 1]
      ∧ ∀ w ∈ (v.run [0, 1, 0, 1, 1, 0, 0, 0, 0]).writers, w.derivations ≤ 2 := by
  intro v
  have misses : (v.run [0, 1, 0, 1, 1]).move? 0 = some .miss := by decide +kernel
  refine ⟨misses, ?_, by decide +kernel, ?_⟩
  · exact (overtaken_and_bounded unsourced rivals [0, 1, 0, 1, 1]).1 0 misses
  · exact (overtaken_and_bounded unsourced rivals [0, 1, 0, 1, 1, 0, 0, 0, 0]).2

end World

end RoamTuning.Store
