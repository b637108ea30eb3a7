import RoamTuning.Proofs.Commits
import RoamTuning.Proofs.Interleaving
import RoamTuning.Proofs.SetHeap

/-!
# Snapshots

Who holds a snapshot can ask later whether this very set is still the active one. It is, as
long as nobody commits, and it never becomes so again once somebody has. To say this about
sets and not about numbers, a session is followed on a heap in which every set that was made
has an address, and two sets are the same one if their addresses are.

Messages and rendered texts are about integers of at most 4300 digits: the writing of a longer
one, after a commit, is not modelled.

Results:

* `exists_mirrors_happen`, `exists_mirrors_session`: a session comes to the same on a heap
  and on a store.
* `snapshot_identifies_commit`: what a held snapshot tells.
-/

namespace RoamTuning.Store

variable {α ρ : Type} [Quantity α] [Row ρ α]

/-! ## Sessions on a heap -/

/-- A heap and the writers at work on it. -/
structure HeapWorld (α ρ : Type) where
  heap : SetHeap α ρ
  source : Option Source
  writers : List (RefWriter α ρ)

namespace HeapWorld

/-- The heap with nothing but the active set of a store, and no writers. -/
def start (s : Store α ρ) : HeapWorld α ρ := ⟨⟨[s.active.params], 0⟩, s.source, []⟩

/-- The heap and its writers after an event. -/
def happen (b : HeapWorld α ρ) : Event → HeapWorld α ρ
  | .operation (.write w) => { b with heap := b.heap.write b.source w }
  | .operation (.commitDuring outer inner) =>
    { b with heap := b.heap.commitDuring b.source outer inner }
  | .operation (.setWeights _) => b
  | .enter w =>
    match (w.plan b.source).outcome with
    | .error _ => b
    | .ok p => { b with writers := b.writers ++ [.ofPlan p] }
  | .turn i =>
    match b.writers[i]? with
    | none => b
    | some g =>
      let (g', h) := RefWriter.step (g, b.heap)
      { b with heap := h, writers := b.writers.set i g' }
  | .answers source => { b with source := b.source.map fun _ => source }

/-- The heap and its writers after the events of a session. -/
def session (b : HeapWorld α ρ) (events : List Event) : HeapWorld α ρ := events.foldl happen b

end HeapWorld

/-! ## What a heap and a store have in common -/

variable {known : Addresses α ρ}

/-- A heap and a store that go through the same session, with their writers. -/
structure Mirrors (known : Addresses α ρ) (b : HeapWorld α ρ) (v : World α ρ) : Prop where
  tracks : Tracks known b.heap v.store.active
  source : b.source = v.store.source
  length_eq : b.writers.length = v.writers.length
  matched : ∀ {i : Nat} {g : RefWriter α ρ} {w : Writer α ρ}, b.writers[i]? = some g →
    v.writers[i]? = some w → Matches known b.heap g w.phase
  /-- No two writers have the same candidate. -/
  apart : ∀ {i j q : Nat} {g g' : RefWriter α ρ}, b.writers[i]? = some g → b.writers[j]? = some g' →
    g.candidate? = some q → g'.candidate? = some q → i = j

omit [Quantity α] [Row ρ α] in
theorem mirrors_start (s : Store α ρ) :
    Mirrors [(0, s.active)] (HeapWorld.start s) (World.start s []) where
  tracks := ⟨by simp [HeapWorld.start, World.start], by simp [HeapWorld.start],
    by simp [World.start], by simp⟩
  source := rfl
  length_eq := rfl
  matched := by simp [HeapWorld.start]
  apart := by simp [HeapWorld.start]

section Mirrors

variable {b : HeapWorld α ρ} {v : World α ρ}

omit [Quantity α] [Row ρ α] in
/-- What nothing comes in between leaves the writers as far as they are. -/
theorem Mirrors.undisturbed (mirrors : Mirrors known b v) {h : SetHeap α ρ} {t : Store α ρ}
    (extended : ExtendsTo known b.heap h t.active) (source : t.source = v.store.source) :
    ∃ known', Mirrors known' { b with heap := h } { v with store := t } ∧ known ⊆ known' := by
  obtain ⟨known', tracks, preserves⟩ := extended
  refine ⟨known', ⟨tracks, mirrors.source.trans source.symm, mirrors.length_eq, fun hg hw => ?_,
    mirrors.apart⟩, preserves.mono⟩
  exact (mirrors.matched hg hw).preserved preserves (by simp)

omit [Quantity α] [Row ρ α] in
theorem Mirrors.lt_length (mirrors : Mirrors known b v) {i q : Nat} {g : RefWriter α ρ}
    (hg : b.writers[i]? = some g) (hq : g.candidate? = some q) : q < b.heap.sets.length := by
  have bound : i < v.writers.length :=
    mirrors.length_eq ▸ (List.getElem?_eq_some_iff.1 hg).1
  exact (mirrors.matched hg (List.getElem?_eq_getElem bound)).lt_length hq

omit [Quantity α] [Row ρ α] in
theorem candidate?_ofPlan (p : Plan α ρ) : (RefWriter.ofPlan p).candidate? = none := by
  cases p <;> rfl

omit [Quantity α] [Row ρ α] in
theorem matches_ofPlan (known : Addresses α ρ) (h : SetHeap α ρ) (p : Plan α ρ) :
    Matches known h (.ofPlan p) (Writer.ofPlan p).phase := by
  cases p with
  | done answer => exact .finished none answer
  | commit c => exact .reading c

theorem of_getElem?_concat_eq_some {β : Type} {xs : List β} {x y : β} {i : Nat}
    (h : (xs ++ [x])[i]? = some y) : xs[i]? = some y ∨ (i = xs.length ∧ y = x) := by
  rw [List.getElem?_append] at h
  split at h
  · exact .inl h
  · obtain ⟨at_end, rfl⟩ := List.getElem?_eq_some_iff.1 h
    have : i - xs.length < 1 := at_end
    exact .inr ⟨by omega, by simp⟩

omit [Quantity α] [Row ρ α] in
/-- A writer that sets out has no candidate yet. -/
theorem Mirrors.enter (mirrors : Mirrors known b v) (p : Plan α ρ) :
    Mirrors known { b with writers := b.writers ++ [.ofPlan p] }
      { v with writers := v.writers ++ [Writer.ofPlan p] } where
  tracks := mirrors.tracks
  source := mirrors.source
  length_eq := by simp [mirrors.length_eq]
  matched := by
    intro i g w hg hw
    have length_eq := mirrors.length_eq
    rcases of_getElem?_concat_eq_some hg with oldRef | ⟨at_end, rfl⟩
    · rcases of_getElem?_concat_eq_some hw with oldWriter | ⟨at_end, -⟩
      · exact mirrors.matched oldRef oldWriter
      · have := (List.getElem?_eq_some_iff.1 oldRef).1
        omega
    · rcases of_getElem?_concat_eq_some hw with oldWriter | ⟨-, rfl⟩
      · have := (List.getElem?_eq_some_iff.1 oldWriter).1
        omega
      · exact matches_ofPlan known b.heap p
  apart := by
    have old : ∀ {i q : Nat} {g : RefWriter α ρ}, (b.writers ++ [.ofPlan p])[i]? = some g →
        g.candidate? = some q → b.writers[i]? = some g := by
      intro i q g hg hq
      rcases of_getElem?_concat_eq_some hg with old | ⟨-, rfl⟩
      · exact old
      · rw [candidate?_ofPlan] at hq
        cases hq
    intro i j q g g' hg hg' hq hq'
    exact mirrors.apart (old hg hq) (old hg' hq') hq hq'

/-- A step moves one writer, whose candidate is a new set if it has one then. -/
theorem Mirrors.turn (mirrors : Mirrors known b v) {i : Nat} {g : RefWriter α ρ} {w : Writer α ρ}
    (hg : b.writers[i]? = some g) (hw : v.writers[i]? = some w) :
    ∃ known', Mirrors known'
        { b with heap := (RefWriter.step (g, b.heap)).2,
                 writers := b.writers.set i (RefWriter.step (g, b.heap)).1 } (v.step i)
      ∧ known ⊆ known' := by
  obtain ⟨⟨known', tracks, matched, preserves⟩, new⟩ := (mirrors.matched hg hw).step mirrors.tracks
  refine ⟨known', ?_, preserves.mono⟩
  rw [World.step_of_found hw]
  refine ⟨tracks, mirrors.source.trans (w.source_step v.store).symm, ?_, ?_, ?_⟩
  · rw [List.length_set, List.length_set, mirrors.length_eq]
  · intro j g' w' hg' hw'
    rcases of_getElem?_set_eq_some hg' with ⟨rfl, rfl⟩ | ⟨other, oldRef⟩
    · rcases of_getElem?_set_eq_some hw' with ⟨-, rfl⟩ | ⟨ne, -⟩
      · exact matched
      · exact absurd rfl ne
    · rcases of_getElem?_set_eq_some hw' with ⟨same, -⟩ | ⟨-, oldWriter⟩
      · exact absurd same other
      · refine (mirrors.matched oldRef oldWriter).preserved preserves fun q hq own => ?_
        exact other (mirrors.apart oldRef hg hq own)
  · -- the candidate of the writer that moved is new, and the others have theirs since before
    have newer : ∀ {j q : Nat} {g' : RefWriter α ρ}, b.writers[j]? = some g' →
        g'.candidate? = some q → (RefWriter.step (g, b.heap)).1.candidate? ≠ some q :=
      fun old hq moved => absurd (mirrors.lt_length old hq) (Nat.not_lt.2 (new _ moved))
    intro j k q g₁ g₂ h₁ h₂ hq₁ hq₂
    rcases of_getElem?_set_eq_some h₁ with ⟨rfl, rfl⟩ | ⟨-, old₁⟩
    · rcases of_getElem?_set_eq_some h₂ with ⟨rfl, -⟩ | ⟨-, old₂⟩
      · rfl
      · exact absurd hq₁ (newer old₂ hq₂)
    · rcases of_getElem?_set_eq_some h₂ with ⟨rfl, rfl⟩ | ⟨-, old₂⟩
      · exact absurd hq₂ (newer old₁ hq₁)
      · exact mirrors.apart old₁ old₂ hq₁ hq₂

/-- **Every event comes to the same on a heap and on a store.** -/
theorem exists_mirrors_happen (mirrors : Mirrors known b v) (e : Event) :
    ∃ known', Mirrors known' (b.happen e) (v.happen e) ∧ known ⊆ known' := by
  cases e with
  | operation o =>
    cases o with
    | write w =>
      have extended := mirrors.tracks.write w
      rw [← mirrors.source] at extended
      exact mirrors.undisturbed extended (sameSetup_write v.store w).1
    | commitDuring outer inner =>
      have extended := mirrors.tracks.commitDuring outer inner
      rw [← mirrors.source] at extended
      exact mirrors.undisturbed extended (sameSetup_apply v.store (.commitDuring outer inner)).1
    | setWeights weights => exact mirrors.undisturbed mirrors.tracks.stay rfl
  | enter w =>
    cases plan : (w.plan v.store.source : Logged Fault (Plan α ρ)).outcome with
    | error e =>
      simp only [HeapWorld.happen, World.happen, mirrors.source, plan]
      exact ⟨known, mirrors, List.Subset.refl known⟩
    | ok p =>
      have plan' : (w.plan b.source).outcome = .ok p := by rw [mirrors.source, plan]
      simp only [HeapWorld.happen, World.happen, plan, plan']
      exact ⟨known, mirrors.enter p, List.Subset.refl known⟩
  | turn i =>
    cases hw : v.writers[i]? with
    | none =>
      have hg : b.writers[i]? = none := by
        rw [List.getElem?_eq_none_iff] at hw ⊢
        exact mirrors.length_eq ▸ hw
      simp only [HeapWorld.happen, hg, World.happen, World.step, hw]
      exact ⟨known, mirrors, List.Subset.refl known⟩
    | some w =>
      have bound : i < b.writers.length := mirrors.length_eq ▸ (List.getElem?_eq_some_iff.1 hw).1
      have hg : b.writers[i]? = some b.writers[i] := List.getElem?_eq_getElem bound
      simp only [HeapWorld.happen, hg, World.happen]
      exact mirrors.turn hg hw
  | answers source =>
    refine ⟨known, ?_, List.Subset.refl known⟩
    exact ⟨mirrors.tracks, congrArg (Option.map fun _ => source) mirrors.source,
      mirrors.length_eq, mirrors.matched, mirrors.apart⟩

theorem exists_mirrors_session (mirrors : Mirrors known b v) (events : List Event) :
    ∃ known', Mirrors known' (b.session events) (v.session events) ∧ known ⊆ known' := by
  induction events generalizing known b v with
  | nil => exact ⟨known, mirrors, List.Subset.refl known⟩
  | cons e r ih =>
    obtain ⟨known', first, mono⟩ := exists_mirrors_happen mirrors e
    obtain ⟨known'', rest, mono'⟩ := ih first
    exact ⟨known'', rest, List.Subset.trans mono mono'⟩

end Mirrors

/-! ## Held snapshots -/

/-- The world in which a store has gone through a session, with no writers at the start. -/
def after (s : Store α ρ) (events : List Event) : World α ρ := (World.start s []).session events

/-- All the sets that were made by then, with the address of the active one. -/
def heapAfter (s : Store α ρ) (events : List Event) : SetHeap α ρ :=
  ((HeapWorld.start s).session events).heap

/-- **Snapshots identify commits.** Whatever has happened to a store when a snapshot is
    taken, and whatever happens then, the set that is held stays what it was and so is
    rendered as it was. It is active for as long as no event commits and never again once
    one has, whatever the sets hold that are active then; the numbers of the commits say
    the same. While it is active, its values are the active ones. Integers are taken to have at
    most 4300 digits, so that whatever is installed can also be rendered. -/
theorem snapshot_identifies_commit (s : Store α ρ) (past future : List Event) :
    let held := (s.heapAfter past).active
    let snapshot := (s.after past).store.active
    let heap := s.heapAfter (past ++ future)
    let active := (s.after (past ++ future)).store.active
    (s.heapAfter past).sets[held]? = some snapshot.params
      ∧ heap.sets[held]? = some snapshot.params
      ∧ heap.sets[held]?.map Override.render = some (s.after past).store.rendered
      ∧ (heap.active = held ↔ ¬ (s.after past).CommitsDuring future)
      ∧ (heap.active = held ↔ active.commit = snapshot.commit)
      ∧ (heap.active = held → active.params = snapshot.params)
      ∧ heap.sets[heap.active]? = some active.params := by
  intro held snapshot heap active
  obtain ⟨known, before, -⟩ := exists_mirrors_session (mirrors_start s) past
  obtain ⟨known', mirrors, mono⟩ := exists_mirrors_session before future
  have heaps : ((HeapWorld.start s).session past).session future
      = (HeapWorld.start s).session (past ++ future) := List.foldl_append.symm
  have world : (s.after past).session future = s.after (past ++ future) := List.foldl_append.symm
  have now : Tracks known' heap active := by
    have tracks := mirrors.tracks
    rwa [heaps, ← after, world] at tracks
  have mem : (held, snapshot) ∈ known' := mono before.tracks.mem
  have found : heap.sets[held]? = some snapshot.params := now.found _ mem
  have number : active.commit = snapshot.commit ↔ ¬ (s.after past).CommitsDuring future := by
    have iff := commit_session_eq_iff (s.after past) future
    rwa [world, eq_comm] at iff
  have place : heap.active = held ↔ active.commit = snapshot.commit := now.active_eq_iff mem
  refine ⟨before.tracks.found _ before.tracks.mem, found, by rw [found]; rfl,
    place.trans number, place, fun same => ?_, now.found _ now.mem⟩
  have active_found : heap.sets[heap.active]? = some active.params := now.found _ now.mem
  rw [same, found] at active_found
  exact (Option.some.inj active_found).symm

/-- Two commits, of which the second restores the values of the first set. -/
def restoring : List Event := [
  .operation (.write (.update (some "nud=3"))), .operation (.write (.update (some "nud=8")))]

-- the first set is still at its address, but an equal one at another address is active
example : (unsourced.after restoring).store.active.params = unsourced.active.params
    ∧ (unsourced.heapAfter restoring).active = 2 := by decide +kernel

end RoamTuning.Store
