import RoamTuning.Proofs.Interleaving

/-!
# Why a swap fails

The next step of a writer reads, derives, swaps or fails to, and nothing but a successful
swap changes the store. Every swap has a number of its own, so a base is active exactly
as long as nobody swaps.

Results:

* `store_step_of_no_swap`: what a step changes.
* `exists_swap`: the active set changes by a successful swap only.
* `exists_lastRead`: a writer that holds a base has read it, and that is the base.
* `overtaken_of_miss`: a swap fails only if another writer has swapped since.
-/

namespace RoamTuning.Store

variable {α ρ : Type}

/-! ## What a writer does next -/

/-- What the next step of a writer comes to. -/
inductive Move where
  /-- It reads the active snapshot. -/
  | read
  /-- It derives a candidate and checks it. -/
  | decide
  /-- It swaps its candidate in. -/
  | swap
  /-- Its swap fails, since its base is not active any more. -/
  | miss
  /-- It has finished. -/
  | rest
deriving DecidableEq, Repr

/-- The next move of a writer. -/
def Phase.move (s : Store α ρ) : Phase α ρ → Move
  | .reading _ => .read
  | .deciding _ _ => .decide
  | .swapping _ base p => if (s.install? base p).isSome then .swap else .miss
  | .finished _ => .rest

/-- The base that a writer holds, if it has read one. -/
def Phase.base? : Phase α ρ → Option (Snapshot α ρ)
  | .reading _ => none
  | .deciding _ base => some base
  | .swapping _ base _ => some base
  | .finished _ => none

theorem Phase.move_eq_swap_iff {s : Store α ρ} {x : Phase α ρ} :
    x.move s = .swap
      ↔ ∃ c base p, x = .swapping c base p ∧ s.active.commit = base.commit := by
  unfold move
  cases x with
  | swapping c base p => by_cases h : s.active.commit = base.commit <;> simp [install?, h]
  | _ => simp

theorem Phase.move_eq_miss_iff {s : Store α ρ} {x : Phase α ρ} :
    x.move s = .miss
      ↔ ∃ c base p, x = .swapping c base p ∧ s.active.commit ≠ base.commit := by
  unfold move
  cases x with
  | swapping c base p => by_cases h : s.active.commit = base.commit <;> simp [install?, h]
  | _ => simp

theorem Phase.move_eq_rest_iff {s : Store α ρ} {x : Phase α ρ} :
    x.move s = .rest ↔ ∃ answer, x = .finished answer := by
  unfold move
  cases x with
  | swapping c base p => by_cases h : (s.install? base p).isSome <;> simp [h]
  | _ => simp

namespace World

/-- The next move of the writer of a number. -/
def move? (v : World α ρ) (i : Nat) : Option Move := v.writers[i]?.map fun w => w.phase.move v.store

theorem move?_eq_some_iff {v : World α ρ} {i : Nat} {m : Move} :
    v.move? i = some m ↔ ∃ w, v.writers[i]? = some w ∧ w.phase.move v.store = m := by
  rw [move?, Option.map_eq_some_iff]

/-! ## What a step changes -/

variable [Quantity α] [Row ρ α]

theorem getElem?_step_self {v : World α ρ} {i : Nat} {w : Writer α ρ}
    (h : v.writers[i]? = some w) : (v.step i).writers[i]? = some (w.step v.store).1 := by
  rw [step_of_found h]
  exact List.getElem?_set_self (List.getElem?_eq_some_iff.1 h).1

theorem getElem?_step_of_ne {v : World α ρ} {i j : Nat} (other : j ≠ i) :
    (v.step j).writers[i]? = v.writers[i]? := by
  cases h : v.writers[j]? with
  | none => rw [step, h]
  | some w =>
    rw [step_of_found h]
    exact List.getElem?_set_ne other

theorem length_writers_step (v : World α ρ) (i : Nat) :
    (v.step i).writers.length = v.writers.length := by
  cases h : v.writers[i]? with
  | none => rw [step, h]
  | some w =>
    rw [step_of_found h]
    exact List.length_set

theorem length_writers_run (v : World α ρ) (schedule : List Nat) :
    (v.run schedule).writers.length = v.writers.length := by
  induction schedule generalizing v with
  | nil => rfl
  | cons i r ih => exact (ih (v.step i)).trans (v.length_writers_step i)

theorem run_append (v : World α ρ) (first second : List Nat) :
    v.run (first ++ second) = (v.run first).run second := by
  rw [run, run, run, List.foldl_append]

theorem run_concat (v : World α ρ) (past : List Nat) (i : Nat) :
    v.run (past ++ [i]) = (v.run past).step i :=
  run_append v past [i]

/-- A step that is no successful swap leaves the store. -/
theorem store_step_of_no_swap {v : World α ρ} {i : Nat} (h : v.move? i ≠ some .swap) :
    (v.step i).store = v.store := by
  cases found : v.writers[i]? with
  | none => rw [step, found]
  | some w =>
    rw [step_of_found found]
    have steps := w.steps v.store
    generalize w.step v.store = next at steps ⊢
    cases steps with
    | swapped phase same =>
      have swaps : v.move? i = some .swap :=
        move?_eq_some_iff.2 ⟨w, found, Phase.move_eq_swap_iff.2 ⟨_, _, _, phase, same⟩⟩
      exact absurd swaps h
    | _ => rfl

/-- A writer that has swapped has finished. -/
theorem move?_step_of_swap {v : World α ρ} {i : Nat} (h : v.move? i = some .swap) :
    (v.step i).move? i = some .rest := by
  obtain ⟨w, found, swaps⟩ := move?_eq_some_iff.1 h
  obtain ⟨c, base, p, phase, same⟩ := Phase.move_eq_swap_iff.1 swaps
  refine move?_eq_some_iff.2 ⟨_, getElem?_step_self found, ?_⟩
  rw [Writer.step_swapped phase same]
  rfl

/-- A writer that has finished does nothing more. -/
theorem move?_run_of_rest {v : World α ρ} {i : Nat} (h : v.move? i = some .rest)
    (schedule : List Nat) : (v.run schedule).move? i = some .rest := by
  induction schedule generalizing v with
  | nil => exact h
  | cons j r ih =>
    apply ih
    obtain ⟨w, found, rests⟩ := move?_eq_some_iff.1 h
    obtain ⟨answer, phase⟩ := Phase.move_eq_rest_iff.1 rests
    by_cases same : j = i
    · subst same
      refine move?_eq_some_iff.2 ⟨_, getElem?_step_self found, ?_⟩
      rw [Writer.step_finished phase, phase]
      rfl
    · refine move?_eq_some_iff.2 ⟨w, (getElem?_step_of_ne same).trans found, ?_⟩
      rw [phase]
      rfl

/-! ## Why a swap fails -/

/-- The active set changes by a successful swap only. -/
theorem exists_swap {v : World α ρ} {schedule : List Nat}
    (h : (v.run schedule).store.active ≠ v.store.active) :
    ∃ before j after, schedule = before ++ j :: after ∧ (v.run before).move? j = some .swap := by
  induction schedule generalizing v with
  | nil => exact absurd rfl h
  | cons j r ih =>
    by_cases swaps : v.move? j = some .swap
    · exact ⟨[], j, r, rfl, swaps⟩
    · rw [← store_step_of_no_swap swaps] at h
      obtain ⟨before, k, after, split, found⟩ := ih h
      exact ⟨j :: before, k, after, by rw [split, List.cons_append], found⟩

/-- Whether a writer reads after some steps of a schedule, and does not read again in
    those that follow. -/
structure LastRead (v : World α ρ) (i : Nat) (before between : List Nat) : Prop where
  reads : (v.run before).move? i = some .read
  last : ∀ mid rest, between = mid ++ i :: rest →
    (v.run (before ++ i :: mid)).move? i ≠ some .read

/-- One more step in which a writer does not read. -/
theorem LastRead.snoc {v : World α ρ} {i j : Nat} {before between : List Nat}
    (h : v.LastRead i before between)
    (quiet : j = i → (v.run (before ++ i :: between)).move? i ≠ some .read) :
    v.LastRead i before (between ++ [j]) := by
  refine ⟨h.reads, fun mid rest split => ?_⟩
  rcases List.eq_nil_or_concat rest with rfl | ⟨rest, k, rfl⟩
  · obtain ⟨rfl, e⟩ := List.append_inj' split rfl
    exact quiet (List.cons.inj e).1
  · rw [List.concat_eq_append, ← List.cons_append, ← List.append_assoc] at split
    obtain ⟨split, -⟩ := List.append_inj' split rfl
    exact h.last mid rest split

/-- The base of a writer after a step of its own: it has just been read, or it is the
    one before the step. -/
theorem base?_step {w : Writer α ρ} {s : Store α ρ} {base : Snapshot α ρ}
    (h : (w.step s).1.phase.base? = some base) :
    (w.phase.move s = .read ∧ base = s.active)
      ∨ (w.phase.move s ≠ .read ∧ w.phase.base? = some base) := by
  have steps := w.steps s
  generalize w.step s = next at steps h
  cases steps with
  | read phase =>
    rw [phase]
    exact .inl ⟨rfl, (Option.some.inj h).symm⟩
  | accepted phase derived =>
    rw [phase]
    exact .inr ⟨by simp [Phase.move], h⟩
  | rejected phase derived => cases h
  | swapped phase same => cases h
  | overtaken phase other => cases h
  | rested phase =>
    rw [phase] at h
    cases h

/-- A writer that holds a base has read it, and the base is what was active then. -/
theorem exists_lastRead {v : World α ρ} (fresh : ∀ w ∈ v.writers, w.phase.base? = none)
    {schedule : List Nat} {i : Nat} {w : Writer α ρ} {base : Snapshot α ρ}
    (found : (v.run schedule).writers[i]? = some w) (holds : w.phase.base? = some base) :
    ∃ before between, schedule = before ++ i :: between ∧ v.LastRead i before between
      ∧ (v.run before).store.active = base := by
  induction schedule using List.reverseRecOn generalizing w with
  | nil =>
    rw [fresh w (List.mem_of_getElem? found)] at holds
    cases holds
  | append_singleton past j ih =>
    rw [run_concat] at found
    -- the last step is one of the writer or of another
    by_cases own : j = i
    · subst own
      cases before : (v.run past).writers[j]? with
      | none =>
        rw [step, before, before] at found
        cases found
      | some x =>
        obtain rfl := Option.some.inj (found.symm.trans (getElem?_step_self before))
        rcases base?_step holds with ⟨reads, rfl⟩ | ⟨quiet, held⟩
        · refine ⟨past, [], rfl, ⟨move?_eq_some_iff.2 ⟨x, before, reads⟩, ?_⟩, rfl⟩
          intro mid rest split
          simp at split
        · obtain ⟨first, between, rfl, last, active⟩ := ih before held
          refine ⟨first, between ++ [j], by simp, last.snoc fun _ => ?_, active⟩
          rw [move?, before, Option.map_some]
          exact fun e => quiet (Option.some.inj e)
    · rw [getElem?_step_of_ne own] at found
      obtain ⟨first, between, rfl, last, active⟩ := ih found holds
      exact ⟨first, between ++ [j], by simp, last.snoc fun e => absurd e own, active⟩

/-- **A swap fails only if another writer has swapped** since the base was read. -/
theorem overtaken_of_miss {v : World α ρ} (fresh : ∀ w ∈ v.writers, w.phase.base? = none)
    {schedule : List Nat} {i : Nat} (misses : (v.run schedule).move? i = some .miss) :
    ∃ before between, schedule = before ++ i :: between ∧ v.LastRead i before between
      ∧ ∃ mid j rest, between = mid ++ j :: rest ∧ j ≠ i
        ∧ (v.run (before ++ i :: mid)).move? j = some .swap := by
  obtain ⟨w, found, move⟩ := move?_eq_some_iff.1 misses
  obtain ⟨c, base, p, phase, stale⟩ := Phase.move_eq_miss_iff.1 move
  have holds : w.phase.base? = some base := by rw [phase]; rfl
  obtain ⟨before, between, rfl, last, active⟩ := exists_lastRead fresh found holds
  refine ⟨before, between, rfl, last, ?_⟩
  have read : ((v.run before).step i).store.active = base := by
    rw [store_step_of_no_swap (by rw [last.reads]; simp), active]
  have later : v.run (before ++ i :: between) = ((v.run before).step i).run between :=
    run_append v before (i :: between)
  have changed : (((v.run before).step i).run between).store.active
      ≠ ((v.run before).step i).store.active := by
    intro same
    rw [later, same, read] at stale
    exact stale rfl
  obtain ⟨mid, j, rest, rfl, swaps⟩ := exists_swap changed
  have here : v.run (before ++ i :: mid) = ((v.run before).step i).run mid :=
    run_append v before (i :: mid)
  rw [← here] at swaps
  refine ⟨mid, j, rest, rfl, ?_, swaps⟩
  rintro rfl
  -- a writer that has swapped would have finished
  have rests := move?_run_of_rest (move?_step_of_swap swaps) rest
  have split : v.run (before ++ j :: (mid ++ j :: rest))
      = ((v.run (before ++ j :: mid)).step j).run rest := by
    rw [← List.cons_append, ← List.append_assoc, run_append]
    rfl
  rw [← split, misses] at rests
  cases rests

end World

end RoamTuning.Store
