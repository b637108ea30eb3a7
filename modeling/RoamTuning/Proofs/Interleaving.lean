import RoamTuning.Proofs.Sessions

/-!
# Interleaved writers

Writers that take their steps side by side come to what they would come to one
after the other, in the order of their successful swaps. Each answers what it
would answer alone, since a change comes to the same on all sound sets, so that
no retry decides otherwise than the first attempt.

Results:

* `known_installed`: a base that is not active any more does not become it again.
* `follows_step`: every step keeps to the writes that were carried out so far.
* `serialized_of_finished`: what the writers have done once all have finished.
-/

namespace RoamTuning.Store

/-! ## Writes one after the other -/

/-- The stores that a store becomes by accepted writes, one after the other, each
    carried out on what the one before has left. Writes go by their numbers. -/
inductive Serial (ws : List Write) (s : IntStore) : List Nat → IntStore → Prop
  | start : Serial ws s [] s
  | next {order : List Nat} {t : IntStore} {i : Nat} {w : Write} (before : Serial ws s order t)
      (found : ws[i]? = some w) (accepted : (t.write w).2.outcome = .ok true) :
      Serial ws s (order ++ [i]) (t.write w).1

theorem Serial.sound {ws : List Write} {s t : IntStore} {order : List Nat}
    (h : Serial ws s order t) (hs : s.Sound) : t.Sound := by
  induction h with
  | start => exact hs
  | next _ _ _ ih => exact sound_write ih _

theorem Serial.source_eq {ws : List Write} {s t : IntStore} {order : List Nat}
    (h : Serial ws s order t) : t.source = s.source := by
  induction h with
  | start => rfl
  | next _ _ _ ih => exact (sameSetup_write _ _).1.trans ih

/-! ## How far a writer has got -/

/-- What a writer knows of the base that it has read: it was sound and came no
    later than the active set, and is that set if it has its number. -/
structure Known (active base : Snapshot Int (List Int)) : Prop where
  sound : base.params.Sound
  le : base.commit ≤ active.commit
  eq : base.commit = active.commit → base = active

theorem known_self {active : Snapshot Int (List Int)} (h : active.params.Sound) :
    Known active active := ⟨h, Nat.le_refl _, fun _ => rfl⟩

/-- A base that is not active any more does not become it again. -/
theorem known_installed {s : IntStore} {base : Snapshot Int (List Int)} (h : Known s.active base)
    (p : IntParams) : Known (s.installed p).active base := by
  have le := h.le
  refine ⟨h.sound, ?_, fun e => ?_⟩
  · show base.commit ≤ s.active.commit + 1
    omega
  · have : base.commit = s.active.commit + 1 := e
    omega

/-- The progress of the writer of a write, which has swapped or has not. -/
inductive Progress (source : Option Source) (w : Write) (active : Snapshot Int (List Int))
    (swapped : Prop) : Phase Int (List Int) → Prop
  | reading {c : Change Int (List Int)}
      (plan : (w.plan source).outcome = .ok (.commit c)) (h : ¬ swapped) :
      Progress source w active swapped (.reading c)
  | deciding {c : Change Int (List Int)} {base : Snapshot Int (List Int)}
      (plan : (w.plan source).outcome = .ok (.commit c)) (h : ¬ swapped)
      (known : Known active base) : Progress source w active swapped (.deciding c base)
  | swapping {c : Change Int (List Int)} {base : Snapshot Int (List Int)}
      {p : IntParams} (plan : (w.plan source).outcome = .ok (.commit c)) (h : ¬ swapped)
      (known : Known active base) (hc : candidate c.derive base.params = .ok p) :
      Progress source w active swapped (.swapping c base p)
  | idle {answer : Bool}
      (plan : (w.plan source : Logged Fault (Plan Int (List Int))).outcome = .ok (.done answer))
      (h : ¬ swapped) : Progress source w active swapped (.finished answer)
  | rejected {c : Change Int (List Int)} {base : IntParams} {r : Rejection}
      (plan : (w.plan source).outcome = .ok (.commit c)) (h : ¬ swapped) (sound : base.Sound)
      (hc : candidate c.derive base = .error r) : Progress source w active swapped (.finished false)
  | accepted {c : Change Int (List Int)} {base p : IntParams}
      (plan : (w.plan source).outcome = .ok (.commit c)) (h : swapped) (sound : base.Sound)
      (hc : candidate c.derive base = .ok p) : Progress source w active swapped (.finished true)

/-- The swap of another writer leaves the progress of a writer. -/
theorem Progress.installed {source : Option Source} {w : Write} {s : IntStore}
    {swapped swapped' : Prop} {phase : Phase Int (List Int)}
    (h : Progress source w s.active swapped phase) (same : swapped' ↔ swapped) (p : IntParams) :
    Progress source w (s.installed p).active swapped' phase := by
  cases h with
  | reading plan h => exact .reading plan (mt same.1 h)
  | deciding plan h known => exact .deciding plan (mt same.1 h) (known_installed known p)
  | swapping plan h known hc => exact .swapping plan (mt same.1 h) (known_installed known p) hc
  | idle plan h => exact .idle plan (mt same.1 h)
  | rejected plan h sound hc => exact .rejected plan (mt same.1 h) sound hc
  | accepted plan h sound hc => exact .accepted plan (same.2 h) sound hc

/-- A writer that has finished answers what its write answers alone, and it has
    swapped if it was asked for something and answers yes. -/
theorem Progress.answer_eq {s : IntStore} (hs : s.Sound) {w : Write}
    {active : Snapshot Int (List Int)} {swapped : Prop} {answer : Bool}
    (h : Progress s.source w active swapped (.finished answer)) :
    (s.write w).2.outcome = .ok answer ∧ (swapped ↔ answer = true ∧ ¬ w.AsksNothing) := by
  cases h with
  | idle plan h =>
    refine ⟨(write_of_done plan).2, iff_of_false h ?_⟩
    rintro ⟨rfl, asks⟩
    cases plan_cases plan with
    | idle blank => exact asks blank
  | rejected plan h sound hc =>
    obtain ⟨verdict, uniform⟩ := exists_uniform_of_plan plan
    obtain ⟨hc, judged⟩ := uniform.rejected sound hs hc
    exact ⟨(write_of_rejected plan hc judged).2, iff_of_false h (by simp)⟩
  | accepted plan h sound hc =>
    obtain ⟨verdict, uniform⟩ := exists_uniform_of_plan plan
    obtain ⟨p, hc⟩ := uniform.accepted sound hs hc
    exact ⟨(write_of_accepted plan hc).2, iff_of_true h ⟨rfl, (plan_cases plan).asks⟩⟩

/-! ## Worlds that follow the swaps -/

/-- What holds between two steps: the store is what the swaps so far have made of
    it, no writer has swapped twice, and the progress of every writer is known. -/
structure Follows (ws : List Write) (s : IntStore) (v : World Int (List Int)) : Prop where
  serial : Serial ws s v.order v.store
  nodup : v.order.Nodup
  length_eq : v.writers.length = ws.length
  progress : ∀ i w x, ws[i]? = some w → v.writers[i]? = some x →
    Progress s.source w v.store.active (i ∈ v.order) x.phase

theorem Follows.sound {ws : List Write} {s : IntStore} {v : World Int (List Int)}
    (h : Follows ws s v) (hs : s.Sound) : v.store.Sound := h.serial.sound hs

theorem of_getElem?_set_eq_some {α : Type} {xs : List α} {i j : Nat} {x y : α}
    (h : (xs.set i x)[j]? = some y) : (j = i ∧ y = x) ∨ (j ≠ i ∧ xs[j]? = some y) := by
  by_cases same : i = j
  · subst same
    rw [List.getElem?_set_self'] at h
    obtain ⟨_, _, e⟩ := Option.map_eq_some_iff.1 h
    exact .inl ⟨rfl, e.symm⟩
  · rw [List.getElem?_set_ne same] at h
    exact .inr ⟨Ne.symm same, h⟩

/-- A step without a swap moves one writer only. -/
theorem Follows.moved {ws : List Write} {s : IntStore} {v : World Int (List Int)}
    (h : Follows ws s v) {i : Nat} {w : Write} (hw : ws[i]? = some w)
    {x : Writer Int (List Int)}
    (hx : Progress s.source w v.store.active (i ∈ v.order) x.phase) :
    Follows ws s ⟨v.store, v.writers.set i x, v.order⟩ := by
  refine ⟨h.serial, h.nodup, by rw [List.length_set, h.length_eq], ?_⟩
  intro j u y hu hy
  rcases of_getElem?_set_eq_some hy with ⟨rfl, rfl⟩ | ⟨-, hy⟩
  · obtain rfl := Option.some.inj (hw.symm.trans hu)
    exact hx
  · exact h.progress j u y hu hy

/-- A successful swap is the next accepted write. -/
theorem Follows.swapped {ws : List Write} {s : IntStore} {v : World Int (List Int)}
    (h : Follows ws s v) (hs : s.Sound) {i : Nat} {w : Write} (hw : ws[i]? = some w)
    {c : Change Int (List Int)} (plan : (w.plan s.source).outcome = .ok (.commit c)) {p : IntParams}
    (hc : candidate c.derive v.store.active.params = .ok p) (new : i ∉ v.order)
    {x : Writer Int (List Int)} (hx : x.phase = .finished true) :
    Follows ws s ⟨v.store.installed p, v.writers.set i x, v.order ++ [i]⟩ := by
  have plan' : (w.plan v.store.source).outcome = .ok (.commit c) := by rwa [h.serial.source_eq]
  obtain ⟨left, answer⟩ := write_of_accepted plan' hc
  refine ⟨left ▸ .next h.serial hw answer, ?_, by rw [List.length_set, h.length_eq], ?_⟩
  · rw [List.nodup_append]
    refine ⟨h.nodup, List.nodup_singleton i, fun a ha b hb => ?_⟩
    rintro rfl
    exact new (List.mem_singleton.1 hb ▸ ha)
  · intro j u y hu hy
    rcases of_getElem?_set_eq_some hy with ⟨rfl, rfl⟩ | ⟨other, hy⟩
    · obtain rfl := Option.some.inj (hw.symm.trans hu)
      rw [hx]
      exact .accepted plan (by simp) (h.sound hs) hc
    · have others : j ∈ v.order ++ [i] ↔ j ∈ v.order := by simp [other]
      exact (h.progress j u y hu hy).installed others p

/-- **Every step keeps to the writes that were carried out so far.** -/
theorem follows_step {ws : List Write} {s : IntStore} (hs : s.Sound) {v : World Int (List Int)}
    (h : Follows ws s v) (i : Nat) : Follows ws s (v.step i) := by
  cases found : v.writers[i]? with
  | none => rwa [World.step, found]
  | some x =>
    rw [World.step_of_found found]
    have bound : i < ws.length := h.length_eq ▸ (List.getElem?_eq_some_iff.1 found).1
    have hw : ws[i]? = some ws[i] := List.getElem?_eq_getElem bound
    have progress := h.progress i _ x hw found
    have steps := x.steps v.store
    generalize x.step v.store = next at steps ⊢
    cases steps with
    | read phase =>
      rw [phase] at progress
      cases progress with
      | reading plan new => exact h.moved hw (.deciding plan new (known_self (h.sound hs)))
    | accepted phase derived =>
      rw [phase] at progress
      cases progress with
      | deciding plan new known => exact h.moved hw (.swapping plan new known derived)
    | rejected phase derived =>
      rw [phase] at progress
      cases progress with
      | deciding plan new known => exact h.moved hw (.rejected plan new known.sound derived)
    | swapped phase same =>
      rw [phase] at progress
      cases progress with
      | swapping plan new known hc =>
        -- the base is the active set still, so the candidate is derived from the latter
        rw [known.eq same.symm] at hc
        exact h.swapped hs hw plan hc new rfl
    | overtaken phase other =>
      rw [phase] at progress
      cases progress with
      | swapping plan new known hc => exact h.moved hw (.reading plan new)
    | rested phase => exact h.moved hw progress

theorem follows_run {ws : List Write} {s : IntStore} (hs : s.Sound) {v : World Int (List Int)}
    (h : Follows ws s v) (schedule : List Nat) : Follows ws s (v.run schedule) := by
  induction schedule generalizing v with
  | nil => exact h
  | cons i r ih => exact ih (follows_step hs h i)

/-! ## Whole runs -/

/-- What a write is planned to do with a source; nothing if it cannot be planned. -/
def planned (source : Option Source) (w : Write) : Plan Int (List Int) :=
  match (w.plan source : Logged Fault (Plan Int (List Int))).outcome with
  | .ok p => p
  | .error _ => .done false

/-- The world in which writes are about to be carried out on a store. -/
def World.ofWrites (s : IntStore) (ws : List Write) : World Int (List Int) :=
  .start s (ws.map (planned s.source))

theorem follows_ofWrites {s : IntStore} {ws : List Write}
    (answered : ∀ w ∈ ws, ∃ answer, (s.write w).2.outcome = .ok answer) :
    Follows ws s (World.ofWrites s ws) := by
  refine ⟨.start, List.nodup_nil, by simp [World.ofWrites, World.start], ?_⟩
  intro i w x hw hx
  have started : x = Writer.ofPlan (planned s.source w) := by
    simpa [World.ofWrites, World.start, hw, eq_comm] using hx
  obtain ⟨answer, ok⟩ := answered w (List.mem_of_getElem? hw)
  have new : i ∉ (World.ofWrites s ws).order := List.not_mem_nil
  cases plan : (w.plan s.source : Logged Fault (Plan Int (List Int))).outcome with
  | error e =>
    rw [(write_of_fault plan).2] at ok
    cases ok
  | ok p =>
    rw [started, planned, plan]
    cases p with
    | done b => exact .idle plan new
    | commit c => exact .reading plan new

/-- What writers have done on a store once all of them have finished. -/
structure Serialized (ws : List Write) (s : IntStore) (v : World Int (List Int)) : Prop where
  /-- The store is what accepted writes, one after the other, make of it. -/
  serial : Serial ws s v.order v.store
  /-- No write is carried out twice. -/
  nodup : v.order.Nodup
  /-- Every writer answers what its write answers alone. It swaps once if it is
      accepted and was asked for something, and not at all otherwise. -/
  answers : ∀ i w, ws[i]? = some w → ∃ answer,
    v.writers[i]?.map (·.phase) = some (.finished answer)
      ∧ (s.write w).2.outcome = .ok answer
      ∧ (i ∈ v.order ↔ answer = true ∧ ¬ w.AsksNothing)

theorem Follows.serialized {ws : List Write} {s : IntStore} (hs : s.Sound)
    {v : World Int (List Int)} (h : Follows ws s v) (finished : v.Finished) :
    Serialized ws s v := by
  refine ⟨h.serial, h.nodup, fun i w hw => ?_⟩
  have bound : i < v.writers.length := by
    rw [h.length_eq]
    exact (List.getElem?_eq_some_iff.1 hw).1
  have found : v.writers[i]? = some v.writers[i] := List.getElem?_eq_getElem bound
  obtain ⟨answer, phase⟩ := finished _ (List.getElem_mem bound)
  have progress := h.progress i w _ hw found
  rw [phase] at progress
  refine ⟨answer, ?_, progress.answer_eq hs⟩
  rw [found, Option.map_some, phase]

theorem order_step_grows (v : World Int (List Int)) (i : Nat) : v.order <+: (v.step i).order := by
  rcases v.order_step i with same | more
  · rw [same]
  · exact more ▸ List.prefix_append _ _

theorem order_run_grows (v : World Int (List Int)) (schedule : List Nat) :
    v.order <+: (v.run schedule).order := by
  induction schedule generalizing v with
  | nil => exact List.prefix_rfl
  | cons i r ih => exact (order_step_grows v i).trans (ih (v.step i))

/-- **No update is lost.** Take a store with a valid set and complete arrays, and
    writes none of which is a fault there. However the steps of their writers are
    interleaved, once all have finished they have come to what they come to one
    after the other in the order of their swaps, and at every moment in between
    the store is what the swaps until then have made of it, with a valid set. -/
theorem serialized_of_finished {s : IntStore} (valid : s.active.params.check = .ok ())
    (shaped : s.active.params.Shaped) {ws : List Write}
    (answered : ∀ w ∈ ws, ∃ answer, (s.write w).2.outcome = .ok answer) {schedule : List Nat}
    (finished : ((World.ofWrites s ws).run schedule).Finished) :
    Serialized ws s ((World.ofWrites s ws).run schedule)
      ∧ ∀ past future, schedule = past ++ future →
        ((World.ofWrites s ws).run past).order <+: ((World.ofWrites s ws).run schedule).order
          ∧ Serial ws s ((World.ofWrites s ws).run past).order
            ((World.ofWrites s ws).run past).store
          ∧ ((World.ofWrites s ws).run past).store.active.params.check = .ok ()
          ∧ ((World.ofWrites s ws).run past).store.active.params.Shaped := by
  have hs : s.Sound := ⟨(ParamSet.check_eq_ok_iff _).1 valid, shaped⟩
  have follows : ∀ past, Follows ws s ((World.ofWrites s ws).run past) :=
    follows_run hs (follows_ofWrites answered)
  refine ⟨(follows schedule).serialized hs finished, ?_⟩
  rintro past future rfl
  have sound := (follows past).sound hs
  refine ⟨?_, (follows past).serial, (ParamSet.check_eq_ok_iff _).2 sound.inDomain, sound.shaped⟩
  rw [World.run, World.run, List.foldl_append]
  exact order_run_grows _ future

/-- The answer of a writer that has finished. -/
def Phase.answer? {α ρ : Type} : Phase α ρ → Option Bool
  | .finished answer => some answer
  | _ => none

instance (v : World Int (List Int)) : Decidable v.Finished :=
  decidable_of_iff (∀ w ∈ v.writers, w.phase.answer?.isSome) <| by
    refine forall₂_congr fun w _ => ?_
    cases w.phase <;> simp [Phase.answer?]

/-- Writes of which the first is overtaken by the second, the third is rejected
    and the last asks for nothing. -/
def contending : List Write := [
  .update (some "nud=3"), .update (some "horizon=20"), .update (some "nud=11"), .update (some " ")]

/-- An interleaving of their steps. -/
def contention : List Nat := [0, 1, 2, 0, 1, 1, 0, 2, 0, 0, 0]

theorem serialized_contention :
    ((World.ofWrites unsourced contending).run contention).order = [1, 0]
      ∧ Serialized contending unsourced ((World.ofWrites unsourced contending).run contention) := by
  have answered : ∀ w ∈ contending, ∃ answer, (unsourced.write w).2.outcome = .ok answer := by
    intro w hw
    simp only [contending, List.mem_cons, List.not_mem_nil, or_false] at hw
    rcases hw with rfl | rfl | rfl | rfl
    · exact ⟨true, by decide +kernel⟩
    · exact ⟨true, by decide +kernel⟩
    · exact ⟨false, by decide +kernel⟩
    · exact ⟨true, by decide +kernel⟩
  refine ⟨by decide +kernel, ?_⟩
  exact (serialized_of_finished (by decide +kernel) (by decide +kernel) answered
    (by decide +kernel)).1

end RoamTuning.Store
