import RoamTuning.Store

/-!
# Writers at work side by side

Several writers commit to one store. Each of them goes through atomic steps:
it reads the active snapshot, derives and checks a candidate from it, and swaps
the candidate in if the snapshot is still the active one, or else reads again.
A schedule says whose step comes next, so every interleaving is a run of some
schedule.

Results:

* `step_finished`: a writer that has finished does nothing more.
* `order_step`: a step adds at most one successful swap.
-/

namespace RoamTuning.Store

variable {α ρ : Type} [Quantity α] [Row ρ α]

/-- Where a writer stands in its work. -/
inductive Phase (α ρ : Type) where
  /-- About to read the active snapshot. -/
  | reading (change : Change α ρ)
  /-- About to derive and check a candidate from a base. -/
  | deciding (change : Change α ρ) (base : Snapshot α ρ)
  /-- About to swap a candidate in for its base. -/
  | swapping (change : Change α ρ) (base : Snapshot α ρ) (candidate : ParamSet α ρ)
  | finished (answer : Bool)

/-- A writer, with how often it has derived a candidate. -/
structure Writer (α ρ : Type) where
  phase : Phase α ρ
  derivations : Nat

/-- The writer that sets out to carry out a plan. -/
def Writer.ofPlan : Plan α ρ → Writer α ρ
  | .done answer => ⟨.finished answer, 0⟩
  | .commit c => ⟨.reading c, 0⟩

/-- The next atomic step of a writer, and whether it was a successful swap. -/
def Writer.step (w : Writer α ρ) (s : Store α ρ) : Writer α ρ × Store α ρ × Bool :=
  match w.phase with
  | .reading c => ({ w with phase := .deciding c s.active }, s, false)
  | .deciding c base =>
    let phase :=
      match candidate c.derive base.params with
      | .ok p => .swapping c base p
      | .error _ => .finished false
    (⟨phase, w.derivations + 1⟩, s, false)
  | .swapping c base p =>
    match s.install? base p with
    | some s' => ({ w with phase := .finished true }, s', true)
    | none => ({ w with phase := .reading c }, s, false)
  | .finished _ => (w, s, false)

/-- A store and the writers at work on it, with the writers whose swaps
    succeeded in the order of the swaps. -/
structure World (α ρ : Type) where
  store : Store α ρ
  writers : List (Writer α ρ)
  order : List Nat

namespace World

/-- The world in which plans are about to be carried out on a store. -/
def start (s : Store α ρ) (plans : List (Plan α ρ)) : World α ρ :=
  ⟨s, plans.map Writer.ofPlan, []⟩

/-- The step of one writer; a number that is no writer's does nothing. -/
def step (v : World α ρ) (i : Nat) : World α ρ :=
  match v.writers[i]? with
  | none => v
  | some w =>
    let (w', s', swapped) := w.step v.store
    ⟨s', v.writers.set i w', if swapped then v.order ++ [i] else v.order⟩

/-- The steps of a schedule. -/
def run (v : World α ρ) (schedule : List Nat) : World α ρ :=
  schedule.foldl step v

/-- Whether every writer has finished. -/
def Finished (v : World α ρ) : Prop :=
  ∀ w ∈ v.writers, ∃ answer, w.phase = .finished answer

theorem order_step (v : World α ρ) (i : Nat) :
    (v.step i).order = v.order ∨ (v.step i).order = v.order ++ [i] := by
  unfold step
  split
  · exact .inl rfl
  · rename_i w _
    cases h : (w.step v.store).2.2 with
    | true => right; simp [h]
    | false => left; simp [h]

end World

theorem Writer.step_finished {w : Writer α ρ} {answer : Bool} (h : w.phase = .finished answer)
    (s : Store α ρ) : w.step s = (w, s, false) := by
  simp [Writer.step, h]

end RoamTuning.Store
