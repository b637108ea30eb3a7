import RoamTuning.Proofs.Contention

/-!
# Sets as objects of a heap

The number of a commit stands for a set that was installed, and a commit compares numbers.
Here the sets are objects of a heap, each known by its address, and nothing but addresses is
compared: not the numbers of commits, and not what the sets hold. A heap only grows, so an
object stays at its address as it is. The addresses of the sets that were active and the
numbers of their commits identify each other, so that an address that was given up never
becomes active again, and commits that compare addresses come to what commits come to that
compare numbers.

Results:

* `Tracks.install`: a set that becomes active has an address and a number of its own.
* `Matches.step`: writers take the same steps whether they compare addresses or numbers.
* `Tracks.write`, `Tracks.updates`, `Tracks.commitDuring`: so do whole operations.
-/

namespace RoamTuning.Store

variable {α ρ : Type} [Quantity α] [Row ρ α]

/-! ## Heaps of sets -/

/-- All the sets that were made, each at the address that is its number among them, and the
    address of the active one. -/
structure SetHeap (α ρ : Type) where
  sets : List (ParamSet α ρ)
  active : Nat

/-- A heap with one more set. -/
def SetHeap.alloc (h : SetHeap α ρ) (p : ParamSet α ρ) : SetHeap α ρ :=
  { h with sets := h.sets ++ [p] }

/-- A writer between two steps that refers to sets by their addresses. -/
inductive RefWriter (α ρ : Type) where
  /-- About to read which set is active. -/
  | reading (derive : Derivation α ρ)
  /-- About to derive a candidate from a base and to check it. -/
  | deciding (derive : Derivation α ρ) (base : Nat)
  /-- About to make a candidate active instead of its base. -/
  | swapping (derive : Derivation α ρ) (base candidate : Nat)
  | finished (rejection : Option Rejection)

namespace RefWriter

/-- The next atomic step of a writer. Every candidate that passes the checks is a new set. -/
def step : RefWriter α ρ × SetHeap α ρ → RefWriter α ρ × SetHeap α ρ
  | (.reading derive, h) => (.deciding derive h.active, h)
  | (.deciding derive base, h) =>
    match h.sets[base]? with
    | none => (.deciding derive base, h) -- no base is ever missing
    | some b =>
      match candidate derive b with
      | .ok p => (.swapping derive base h.sets.length, h.alloc p)
      | .error e => (.finished (some e), h)
  | (.swapping derive base new, h) =>
    if h.active = base then (.finished none, { h with active := new }) else (.reading derive, h)
  | (.finished rejection, h) => (.finished rejection, h)

/-- Whether a writer has ended with a fault: its candidate could not be judged. -/
def isFault : RefWriter α ρ → Bool
  | .finished (some e) => e.misfit?.isSome
  | _ => false

/-- The candidate that a writer is about to make active. -/
def candidate? : RefWriter α ρ → Option Nat
  | .swapping _ _ new => some new
  | _ => none

/-- The writer that sets out to carry out a plan. -/
def ofPlan : Plan α ρ → RefWriter α ρ
  | .done _ => .finished none
  | .commit c => .reading c.derive

end RefWriter

namespace SetHeap

/-- Carries out a plan, with nobody else at work. A commit takes three steps. -/
def carryOut (h : SetHeap α ρ) (p : Plan α ρ) : RefWriter α ρ × SetHeap α ρ :=
  RefWriter.step^[3] (.ofPlan p, h)

/-- Carries out a write. -/
def write (h : SetHeap α ρ) (source : Option Source) (w : Write) : SetHeap α ρ :=
  match (w.plan source).outcome with
  | .error _ => h
  | .ok p => (h.carryOut p).2

/-- Updates one after the other, and whether none of them was a fault, which ends them. -/
def updates (source : Option Source) (h : SetHeap α ρ) : List (Option String) → SetHeap α ρ × Bool
  | [] => (h, true)
  | t :: r =>
    match ((Write.update t).plan source).outcome with
    | .error _ => (h, false)
    | .ok p =>
      let (g, h') := h.carryOut p
      if g.isFault then (h', false) else updates source h' r

/-- Commits one override text while the first attempt is disturbed by updates with others,
    after the base has been read. -/
def commitDuring (h : SetHeap α ρ) (source : Option Source) (outer : String)
    (inner : List (Option String)) : SetHeap α ρ :=
  let (g, h) := RefWriter.step (.reading (Override.parse outer), h)
  let (h', answered) := h.updates source inner
  if answered then (RefWriter.step^[5] (g, h')).2 else h'

end SetHeap

/-! ## Addresses and numbers -/

/-- The snapshots that were active so far, each with the address of its set. -/
abbrev Addresses (α ρ : Type) : Type := List (Nat × Snapshot α ρ)

/-- What is known of the addresses at a moment: the sets are where they were put, and an
    address and the number of a commit identify each other. -/
structure Tracks (known : Addresses α ρ) (h : SetHeap α ρ) (active : Snapshot α ρ) : Prop where
  mem : (h.active, active) ∈ known
  found : ∀ e ∈ known, h.sets[e.1]? = some e.2.params
  le : ∀ e ∈ known, e.2.commit ≤ active.commit
  one : ∀ d ∈ known, ∀ e ∈ known, d.1 = e.1 ↔ d.2.commit = e.2.commit

/-- What a change of a heap preserves for all but the writer of a candidate: sets stay at
    their addresses, and no address becomes active but that of the candidate or a new one. -/
structure Preserves (own : Option Nat) (known : Addresses α ρ) (h : SetHeap α ρ)
    (known' : Addresses α ρ) (h' : SetHeap α ρ) : Prop where
  mono : known ⊆ known'
  kept : h.sets <+: h'.sets
  new : ∀ e ∈ known', e ∈ known ∨ own = some e.1 ∨ h.sets.length ≤ e.1

section Addresses

omit [Quantity α] [Row ρ α]

variable {known known' known'' : Addresses α ρ} {h h' h'' : SetHeap α ρ} {active : Snapshot α ρ}
  {own : Option Nat} {p : ParamSet α ρ} {q : Nat}

theorem getElem?_of_kept {xs ys : List (ParamSet α ρ)} (kept : xs <+: ys)
    (found : xs[q]? = some p) : ys[q]? = some p := by
  obtain ⟨more, rfl⟩ := kept
  rw [List.getElem?_append_left (List.getElem?_eq_some_iff.1 found).1, found]

theorem Tracks.lt_length (tracks : Tracks known h active) {e : Nat × Snapshot α ρ}
    (he : e ∈ known) : e.1 < h.sets.length :=
  (List.getElem?_eq_some_iff.1 (tracks.found e he)).1

/-- An address is the active one if its snapshot has the number of the active one. -/
theorem Tracks.active_eq_iff (tracks : Tracks known h active) {r : Nat} {b : Snapshot α ρ}
    (hb : (r, b) ∈ known) : h.active = r ↔ active.commit = b.commit :=
  tracks.one _ tracks.mem _ hb

/-- Adding a set preserves what is known. -/
theorem Tracks.alloc (tracks : Tracks known h active) (p : ParamSet α ρ) :
    Tracks known (h.alloc p) active :=
  ⟨tracks.mem, fun e he => getElem?_of_kept (List.prefix_append _ _) (tracks.found e he),
    tracks.le, tracks.one⟩

/-- A set that was never active becomes so with a number of its own. -/
theorem Tracks.install (tracks : Tracks known h active) (found : h.sets[q]? = some p)
    (new : ∀ e ∈ known, e.1 ≠ q) :
    Tracks ((q, ⟨active.commit + 1, p⟩) :: known) { h with active := q }
      ⟨active.commit + 1, p⟩ where
  mem := List.mem_cons_self
  found := List.forall_mem_cons.2 ⟨found, tracks.found⟩
  le := List.forall_mem_cons.2 ⟨Nat.le_refl _, fun e he => Nat.le_succ_of_le (tracks.le e he)⟩
  one := by
    have later : ∀ e ∈ known, e.2.commit ≠ active.commit + 1 := fun e he =>
      Nat.ne_of_lt (Nat.lt_succ_of_le (tracks.le e he))
    refine List.forall_mem_cons.2 ⟨List.forall_mem_cons.2 ⟨iff_of_true rfl rfl, fun e he => ?_⟩,
      fun d hd => List.forall_mem_cons.2 ⟨?_, tracks.one d hd⟩⟩
    · exact iff_of_false (new e he).symm (later e he).symm
    · exact iff_of_false (new d hd) (later d hd)

theorem Preserves.refl (own : Option Nat) (known : Addresses α ρ) (h : SetHeap α ρ) :
    Preserves own known h known h :=
  ⟨List.Subset.refl known, List.prefix_rfl, fun _ he => .inl he⟩

theorem preserves_alloc (known : Addresses α ρ) (h : SetHeap α ρ) (p : ParamSet α ρ) :
    Preserves own known h known (h.alloc p) :=
  ⟨List.Subset.refl known, List.prefix_append _ _, fun _ he => .inl he⟩

theorem preserves_install (known : Addresses α ρ) (h : SetHeap α ρ) (b : Snapshot α ρ) :
    Preserves (some q) known h ((q, b) :: known) { h with active := q } where
  mono := List.subset_cons_self _ _
  kept := List.prefix_rfl
  new e he := by
    rcases List.mem_cons.1 he with rfl | old
    · exact .inr (.inl rfl)
    · exact .inl old

theorem Preserves.trans (first : Preserves own known h known' h')
    (second : Preserves none known' h' known'' h'') : Preserves own known h known'' h'' where
  mono := List.Subset.trans first.mono second.mono
  kept := first.kept.trans second.kept
  new e he := by
    rcases second.new e he with old | none | new
    · exact first.new e old
    · cases none
    · exact .inr (.inr (first.kept.length_le.trans new))

end Addresses

/-! ## Writers -/

/-- A writer that refers to sets by their addresses is as far as one that refers to them by
    the numbers of their commits. Its candidate has never been active. -/
inductive Matches (known : Addresses α ρ) (h : SetHeap α ρ) : RefWriter α ρ → Phase α ρ → Prop
  | reading (c : Change α ρ) : Matches known h (.reading c.derive) (.reading c)
  | deciding (c : Change α ρ) {r : Nat} {b : Snapshot α ρ} (base : (r, b) ∈ known) :
      Matches known h (.deciding c.derive r) (.deciding c b)
  | swapping (c : Change α ρ) {r q : Nat} {b : Snapshot α ρ} {p : ParamSet α ρ}
      (base : (r, b) ∈ known) (found : h.sets[q]? = some p) (new : ∀ e ∈ known, e.1 ≠ q) :
      Matches known h (.swapping c.derive r q) (.swapping c b p)
  | finished (rejection : Option Rejection) (answer : Bool) :
      Matches known h (.finished rejection) (.finished answer)

section Matches

variable {known known' : Addresses α ρ} {h h' : SetHeap α ρ} {g : RefWriter α ρ} {phase : Phase α ρ}
  {own : Option Nat}

omit [Quantity α] [Row ρ α] in
theorem Matches.lt_length (matched : Matches known h g phase) {q : Nat}
    (hq : g.candidate? = some q) : q < h.sets.length := by
  cases matched with
  | swapping c base found new =>
    obtain rfl := Option.some.inj hq
    exact (List.getElem?_eq_some_iff.1 found).1
  | _ => cases hq

omit [Quantity α] [Row ρ α] in
/-- Two writers that match still do after others were at work. -/
theorem Matches.preserved (matched : Matches known h g phase)
    (preserves : Preserves own known h known' h')
    (others : ∀ q, g.candidate? = some q → own ≠ some q) : Matches known' h' g phase := by
  cases matched with
  | reading c => exact .reading c
  | deciding c base => exact .deciding c (preserves.mono base)
  | finished rejection answer => exact .finished rejection answer
  | @swapping c r q b p base found new =>
    have kept : h'.sets[q]? = some p := getElem?_of_kept preserves.kept found
    refine .swapping c (preserves.mono base) kept fun e he same => ?_
    rcases preserves.new e he with old | mine | later
    · exact new e old same
    · exact others q rfl (same ▸ mine)
    · exact absurd (List.getElem?_eq_some_iff.1 found).1 (Nat.not_lt.2 (same ▸ later))

/-- What a step of two writers comes to that match, on a heap and on a store. -/
structure StepsAlike (known : Addresses α ρ) (g : RefWriter α ρ) (h : SetHeap α ρ)
    (next : RefWriter α ρ × SetHeap α ρ) (next' : Writer α ρ × Store α ρ × Bool) : Prop where
  exists_known : ∃ known', Tracks known' next.2 next'.2.1.active
    ∧ Matches known' next.2 next.1 next'.1.phase ∧ Preserves g.candidate? known h known' next.2
  /-- A candidate is a new set. -/
  candidate_new : ∀ q, next.1.candidate? = some q → h.sets.length ≤ q

section Steps

variable {derive : Derivation α ρ} {r q : Nat} {b p : ParamSet α ρ}

theorem RefWriter.step_accepted (found : h.sets[r]? = some b)
    (derived : candidate derive b = .ok p) :
    RefWriter.step (.deciding derive r, h) = (.swapping derive r h.sets.length, h.alloc p) := by
  simp only [step, found, derived]

theorem RefWriter.step_rejected (found : h.sets[r]? = some b) {e : Rejection}
    (derived : candidate derive b = .error e) :
    RefWriter.step (.deciding derive r, h) = (.finished (some e), h) := by
  simp only [step, found, derived]

theorem RefWriter.step_swapped (same : h.active = r) :
    RefWriter.step (.swapping derive r q, h) = (.finished none, { h with active := q }) :=
  if_pos same

theorem RefWriter.step_overtaken (other : h.active ≠ r) :
    RefWriter.step (.swapping derive r q, h) = (.reading derive, h) := if_neg other

end Steps

/-- **A writer that compares addresses takes the steps of one that compares numbers.** -/
theorem Matches.step {s : Store α ρ} (tracks : Tracks known h s.active) {w : Writer α ρ}
    (matched : Matches known h g w.phase) :
    StepsAlike known g h (RefWriter.step (g, h)) (w.step s) := by
  have steps := w.steps s
  generalize w.step s = next at steps ⊢
  cases steps with
  | @read c phase =>
    rw [phase] at matched
    cases matched with
    | reading => exact ⟨⟨known, tracks, .deciding c tracks.mem, .refl _ known h⟩, nofun⟩
  | @accepted c b p phase derived =>
    rw [phase] at matched
    cases matched with
    | deciding _ base =>
      rw [RefWriter.step_accepted (tracks.found _ base) derived]
      have found : (h.alloc p).sets[h.sets.length]? = some p := List.getElem?_concat_length
      refine ⟨⟨known, tracks.alloc p, .swapping c base found fun e he => ?_,
        preserves_alloc known h p⟩, ?_⟩
      · exact Nat.ne_of_lt (tracks.lt_length he)
      · rintro q ⟨⟩
        exact Nat.le_refl _
  | @rejected c b e phase derived =>
    rw [phase] at matched
    cases matched with
    | deciding _ base =>
      rw [RefWriter.step_rejected (tracks.found _ base) derived]
      exact ⟨⟨known, tracks, .finished (some e) false, .refl _ known h⟩, nofun⟩
  | @swapped c b p phase same =>
    rw [phase] at matched
    cases matched with
    | @swapping _ r q _ _ base found new =>
      rw [RefWriter.step_swapped ((tracks.active_eq_iff base).2 same)]
      exact ⟨⟨_, tracks.install found new, .finished none true,
        preserves_install known h _⟩, nofun⟩
  | @overtaken c b p phase other =>
    rw [phase] at matched
    cases matched with
    | @swapping _ r q _ _ base found new =>
      rw [RefWriter.step_overtaken (mt (tracks.active_eq_iff base).1 other)]
      exact ⟨⟨known, tracks, .reading c, .refl _ known h⟩, nofun⟩
  | @rested answer phase =>
    rw [phase] at matched
    cases matched with
    | finished rejection =>
      exact ⟨⟨known, tracks, phase ▸ .finished rejection answer, .refl _ known h⟩, nofun⟩

end Matches

/-! ## Whole operations -/

/-- Whether a heap is an extension of another, with the snapshot of a store as its active
    set. -/
def ExtendsTo (known : Addresses α ρ) (h h' : SetHeap α ρ) (active : Snapshot α ρ) : Prop :=
  ∃ known', Tracks known' h' active ∧ Preserves none known h known' h'

section ExtendsTo

omit [Quantity α] [Row ρ α]

variable {known known' : Addresses α ρ} {h h' h'' : SetHeap α ρ} {active : Snapshot α ρ}

theorem Tracks.stay (tracks : Tracks known h active) : ExtendsTo known h h active :=
  ⟨known, tracks, .refl none known h⟩

/-- A set that is made and then becomes active does so with a number of its own. -/
theorem Tracks.publish (tracks : Tracks known h active) (p : ParamSet α ρ) :
    ExtendsTo known h ⟨h.sets ++ [p], h.sets.length⟩ ⟨active.commit + 1, p⟩ := by
  have new : ∀ e ∈ known, e.1 ≠ h.sets.length := fun e he =>
    Nat.ne_of_lt (tracks.lt_length he)
  refine ⟨_, (tracks.alloc p).install List.getElem?_concat_length new,
    List.subset_cons_self _ _, List.prefix_append _ _, fun e he => ?_⟩
  rcases List.mem_cons.1 he with rfl | old
  · exact .inr (.inr (Nat.le_refl _))
  · exact .inl old

theorem Preserves.extendsTo (first : Preserves none known h known' h')
    (second : ExtendsTo known' h' h'' active) :
    ExtendsTo known h h'' active := by
  obtain ⟨known'', tracks, preserves⟩ := second
  exact ⟨known'', tracks, first.trans preserves⟩

end ExtendsTo

variable {known : Addresses α ρ} {h : SetHeap α ρ} {s : Store α ρ}

/-- What a commit comes to with nobody else at work. -/
theorem RefWriter.steps_accepted {derive : Derivation α ρ} {b p : ParamSet α ρ}
    (found : h.sets[h.active]? = some b) (derived : candidate derive b = .ok p) :
    RefWriter.step^[3] (.reading derive, h) = (.finished none, ⟨h.sets ++ [p], h.sets.length⟩) := by
  show step (step (.deciding derive h.active, h)) = _
  rw [step_accepted found derived]
  exact step_swapped rfl

theorem RefWriter.steps_rejected {derive : Derivation α ρ} {b : ParamSet α ρ} {e : Rejection}
    (found : h.sets[h.active]? = some b) (derived : candidate derive b = .error e) :
    RefWriter.step^[3] (.reading derive, h) = (.finished (some e), h) := by
  show step (step (.deciding derive h.active, h)) = _
  rw [step_rejected found derived]
  rfl

omit [Quantity α] [Row ρ α] in
/-- A rejection is a fault exactly if the candidate could not be judged. -/
theorem rejected_eq_error_iff (c : Change α ρ) (r : Rejection) :
    (∃ e, (c.rejected r).outcome = .error e) ↔ r.misfit?.isSome = true := by
  rw [Change.rejected]
  cases r.misfit? with
  | some m => exact iff_of_true ⟨.unfit m, rfl⟩ rfl
  | none =>
    show (∃ e, (Except.ok false : Except Fault Bool) = .error e) ↔ _
    simp

/-- Whatever is planned is carried out alike on a heap and on a store. -/
theorem Tracks.carryOut (tracks : Tracks known h s.active) (p : Plan α ρ) :
    ExtendsTo known h (h.carryOut p).2 (s.carryOut p).1.active
      ∧ ((∃ e, (s.carryOut p).2.outcome = .error e) ↔ (h.carryOut p).1.isFault = true) := by
  cases p with
  | done answer =>
    have idle : h.carryOut (.done answer) = (.finished none, h) := rfl
    have answered : s.carryOut (.done answer) = (s, return answer) := rfl
    rw [idle, answered]
    exact ⟨tracks.stay, by simp [Logged.pure_eq, RefWriter.isFault]⟩
  | commit c =>
    have found : h.sets[h.active]? = some s.active.params := tracks.found _ tracks.mem
    cases derived : candidate c.derive s.active.params with
    | ok p =>
      obtain ⟨left, answer⟩ := carryOut_of_accepted derived
      rw [SetHeap.carryOut, RefWriter.ofPlan, RefWriter.steps_accepted found derived, left, answer]
      exact ⟨tracks.publish p, by simp [RefWriter.isFault]⟩
    | error r =>
      rw [SetHeap.carryOut, RefWriter.ofPlan, RefWriter.steps_rejected found derived,
        carryOut_of_refused derived]
      exact ⟨tracks.stay, rejected_eq_error_iff c r⟩

theorem Tracks.write (tracks : Tracks known h s.active) (w : Write) :
    ExtendsTo known h (h.write s.source w) (s.write w).1.active := by
  simp only [Store.write, SetHeap.write]
  cases (w.plan s.source : Logged Fault (Plan α ρ)).outcome with
  | error e => exact tracks.stay
  | ok p => exact (tracks.carryOut p).1

/-- What an update is planned to do does not depend on the source. -/
theorem exists_plan_update (t : Option String) :
    ∃ p : Plan α ρ, ∀ source, ((Write.update t).plan source).outcome = .ok p := by
  cases t with
  | none => exact ⟨.done true, fun _ => rfl⟩
  | some text => exact ⟨planUpdate text, fun _ => rfl⟩

/-- Updates in a row come to the same on a heap and on a store. -/
theorem Tracks.updates (tracks : Tracks known h s.active) (source : Option Source)
    (ts : List (Option String)) :
    ExtendsTo known h (h.updates source ts).1 (s.updates ts).1.active
      ∧ ((∃ answers, (s.updates ts).2.outcome = .ok answers) ↔ (h.updates source ts).2 = true) := by
  induction ts generalizing known h s with
  | nil => exact ⟨tracks.stay, iff_of_true ⟨[], rfl⟩ rfl⟩
  | cons t r ih =>
    obtain ⟨p, plan⟩ : ∃ p : Plan α ρ, ∀ source, ((Write.update t).plan source).outcome = .ok p :=
      exists_plan_update t
    have left : (s.update t).1 = (s.carryOut p).1 := by
      simp only [update, Store.write, plan]
    have outcome : (s.update t).2.outcome = (s.carryOut p).2.outcome := by
      simp only [update, Store.write, plan]
    obtain ⟨⟨known', tracks', preserves⟩, fault⟩ := tracks.carryOut p
    cases answered : (s.carryOut p).2.outcome with
    | error e =>
      have ended : (h.carryOut p).1.isFault = true := fault.1 ⟨e, answered⟩
      simp only [Store.updates, SetHeap.updates, plan, outcome, answered, left, ended, if_true]
      exact ⟨⟨known', tracks', preserves⟩, by simp⟩
    | ok answer =>
      have goesOn : ¬ (h.carryOut p).1.isFault = true := fun ended => by
        obtain ⟨e, failed⟩ := fault.2 ended
        rw [answered] at failed
        cases failed
      obtain ⟨left', outcome'⟩ := updates_cons (outcome.trans answered) r
      rw [left', outcome', left]
      simp only [SetHeap.updates, plan, if_neg goesOn]
      obtain ⟨extended, iff⟩ := ih tracks'
      refine ⟨preserves.extendsTo extended, Iff.trans ?_ iff⟩
      cases ((s.carryOut p).1.updates r).2.outcome <;> simp [Except.map]

/-- An attempt at a base that was active once, and the one that follows where it fails, come
    to the same on a heap and on a store. -/
theorem Tracks.commitAmid {s' : Store α ρ} (tracks : Tracks known h s'.active)
    (derive : Derivation α ρ) {r : Nat} (base : (r, s.active) ∈ known) :
    ExtendsTo known h (RefWriter.step^[5] (.deciding derive r, h)).2
      (commitAmid derive [fun _ => s'] s).store.active := by
  have found : h.sets[r]? = some s.active.params := tracks.found _ base
  show ExtendsTo known h (RefWriter.step^[4] (RefWriter.step (.deciding derive r, h))).2 _
  cases derived : candidate derive s.active.params with
  | error e =>
    rw [RefWriter.step_rejected found derived, commitAmid_rejected derived]
    exact tracks.stay
  | ok p =>
    rw [RefWriter.step_accepted found derived]
    show ExtendsTo known h
      (RefWriter.step^[3] (RefWriter.step (.swapping derive r h.sets.length, h.alloc p))).2 _
    by_cases same : s'.active.commit = s.active.commit
    · have active : (h.alloc p).active = r := (tracks.active_eq_iff base).2 same
      rw [RefWriter.step_swapped active, commitAmid_accepted derived same]
      exact tracks.publish p
    · have other : (h.alloc p).active ≠ r := mt (tracks.active_eq_iff base).1 same
      have added : Tracks known (h.alloc p) s'.active := tracks.alloc p
      have newer : (h.alloc p).sets[(h.alloc p).active]? = some s'.active.params :=
        added.found _ added.mem
      rw [RefWriter.step_overtaken other]
      cases again : candidate derive s'.active.params with
      | ok q =>
        rw [RefWriter.steps_accepted newer again, commitAmid_retried derived same again]
        exact (preserves_alloc known h p).extendsTo (added.publish q)
      | error e =>
        rw [RefWriter.steps_rejected newer again, commitAmid_lost derived same again]
        exact (preserves_alloc known h p).extendsTo added.stay

theorem Tracks.commitDuring (tracks : Tracks known h s.active) (outer : String)
    (inner : List (Option String)) :
    ExtendsTo known h (h.commitDuring s.source outer inner)
      (s.commitDuring outer inner).1.active := by
  obtain ⟨⟨known', tracks', preserves⟩, answered⟩ := tracks.updates s.source inner
  have parts : h.commitDuring s.source outer inner = if (h.updates s.source inner).2 then
      (RefWriter.step^[5]
        (.deciding (Override.parse outer) h.active, (h.updates s.source inner).1)).2
      else (h.updates s.source inner).1 := rfl
  rw [parts]
  cases outcome : (s.updates inner).2.outcome with
  | error e =>
    have ended : ¬ (h.updates s.source inner).2 = true := fun ok => by
      obtain ⟨answers, done⟩ := answered.2 ok
      rw [outcome] at done
      cases done
    simp only [if_neg ended, Store.commitDuring, commitAfter, outcome]
    exact ⟨known', tracks', preserves⟩
  | ok answers =>
    simp only [if_pos (answered.1 ⟨answers, outcome⟩), Store.commitDuring, commitAfter, outcome]
    have base := preserves.mono tracks.mem
    exact preserves.extendsTo (tracks'.commitAmid (Override.parse outer) base)

end RoamTuning.Store
