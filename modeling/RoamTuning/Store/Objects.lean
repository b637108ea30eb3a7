import RoamTuning.ParamSet.Members
import RoamTuning.Store.Contention
import RoamTuning.Store.Readings

/-!
# Stores of objects

A store whose sets have members besides their parameters. The sets descend from
one another by copying, so they all have the same members, and these decide what
a write comes to: whether it can be carried out at all, which of the parameters
that it names change, and what is put aside. They also decide whether thresholds
can be looked up and whether sets can be listed and compared.

Results:

* `write_ofStore`, `commitDuring_ofStore`, `report_ofStore`: without more members
  these are the operations of any store.
* `store_write_of_uncopyable`: where sets cannot be copied, no write changes a store.
-/

namespace RoamTuning

open ParamSet (Field)
open Value (Misfit)

variable {α ρ : Type} [Quantity α] [Row ρ α]

/-- A derivation that ends by copying its base with the parameters that it names. -/
def Derivation.byCopying (ms : Members) (aside : Value) (named : List Field)
    (derive : Derivation α ρ) (base : ParamSet α ρ) :
    Except Override.Error (ParamSet α ρ × Value) := do
  let p ← derive base
  (ms.copyNamed aside named base p).mapError .unfit

theorem Derivation.byCopying_of_closed {ms : Members} (copied : ms.copying = .ok ())
    (closed : ms.isOpen = .ok false) (aside : Value) (named : List Field)
    (derive : Derivation α ρ) (base : ParamSet α ρ) :
    derive.byCopying ms aside named base = (derive base).map fun p => (p, aside) := by
  simp only [byCopying, Members.copyNamed_of_closed copied closed]
  cases derive base <;> rfl

/-- The parameters that a write names. -/
def Store.Write.named : Store.Write → List Field
  | .update none => []
  | .update (some text) => Override.named text
  | .bandThresholds b _ => [.array b.key]
  | .thresholds band _ =>
    match Band.ofValue? band with
    | some b => [.array b.key]
    | none => []

/-- A store whose sets have members besides their parameters. -/
structure ObjectStore (α ρ : Type) where
  store : Store α ρ
  /-- The members that are no parameters. All sets of the store have them. -/
  others : Members
  /-- What the active set has put aside. -/
  aside : Value

/-- A set that was or is active, with what it has put aside. -/
structure ObjectSnapshot (α ρ : Type) where
  snapshot : Snapshot α ρ
  aside : Value

namespace ObjectStore

/-- A store as it starts, where nothing was put aside. -/
def start (others : Members) (s : Store α ρ) : ObjectStore α ρ := ⟨s, others, .null⟩

/-- A store whose sets have no members besides their parameters. -/
def ofStore (s : Store α ρ) : ObjectStore α ρ := start Table.empty s

/-! ## Writing -/

/-- A derivation as the sets of a store carry it out. -/
def restricted (s : ObjectStore α ρ) (named : List Field) (derive : Derivation α ρ) :
    Derivation α ρ :=
  fun base => (derive.byCopying s.others s.aside named base).map (·.1)

/-- A store after a commit has left its plain store behind: an installed set has
    put aside what it was not allowed to take. -/
def settle (s : ObjectStore α ρ) (named : List Field) (derive : Derivation α ρ)
    (left : Store α ρ) : ObjectStore α ρ :=
  if left.active.commit = s.store.active.commit then { s with store := left }
  else
    match derive.byCopying s.others s.aside named s.store.active.params with
    | .ok (_, aside) => { s with store := left, aside }
    | .error _ => { s with store := left }

/-- Carries out a plan that names some parameters. -/
def carryOut (s : ObjectStore α ρ) (named : List Field) :
    Store.Plan α ρ → ObjectStore α ρ × Logged Fault Bool
  | .done answer => (s, return answer)
  | .commit c =>
    let (left, answer) := s.store.carryOut
      (.commit { c with derive := s.restricted named c.derive })
    (s.settle named c.derive left, answer)

/-- Carries out a write. -/
def write (s : ObjectStore α ρ) (w : Store.Write) : ObjectStore α ρ × Logged Fault Bool :=
  let plan := w.plan s.store.source
  match plan.outcome with
  | .error e => (s, ⟨plan.log, .error e⟩)
  | .ok p =>
    let (s', answer) := s.carryOut w.named p
    (s', ⟨plan.log ++ answer.log, answer.outcome⟩)

/-- Updates one after the other, with what each of them answered. A fault ends
    them. -/
def updates (s : ObjectStore α ρ) :
    List (Option String) → ObjectStore α ρ × Logged Fault (List Bool)
  | [] => (s, return [])
  | t :: r =>
    let (s', answer) := s.write (.update t)
    match answer.outcome with
    | .error e => (s', ⟨answer.log, .error e⟩)
    | .ok b =>
      let (s'', answers) := updates s' r
      (s'', ⟨answer.log ++ answers.log, answers.outcome.map (b :: ·)⟩)

/-- Commits one override text while the first attempt is disturbed by updates
    with others. -/
def commitDuring (s : ObjectStore α ρ) (outer : String) (inner : List (Option String)) :
    ObjectStore α ρ × Logged Fault (Store.DisturbedReport α ρ) :=
  let named := Override.named outer
  let (disturbed, answers) := s.updates inner
  let (left, report) := Store.commitAfter (s.restricted named (Override.parse outer))
    (disturbed.store, answers) s.store
  (disturbed.settle named (Override.parse outer) left, report)

/-! ## Reading -/

/-- The thresholds of a band and then each of them. -/
def report (s : ObjectStore α ρ) (band : Logged Fault Band) : Logged Fault (ρ × List α) :=
  match s.others.thresholds with
  | .ok () => s.store.reportIn band
  | .error m => do
    let _ ← band
    Logged.fail (.unfit m)

/-- The active set for later comparisons. -/
def snapshot (s : ObjectStore α ρ) : ObjectSnapshot α ρ := ⟨s.store.active, s.aside⟩

/-- Whether a set that was active equals the active one. -/
def equals (s : ObjectStore α ρ) (held : ObjectSnapshot α ρ) : Except Misfit Bool := do
  let comparable :=
    match ← s.others.origin with
    | some v => v.equalsItself
    | none => true
  return comparable && held.aside.equals s.aside
    && held.snapshot.params.same s.store.active.params

/-! ## Laws -/

theorem restricted_ofStore (s : Store α ρ) (named : List Field) (derive : Derivation α ρ) :
    (ofStore s).restricted named derive = derive := by
  funext base
  simp only [restricted, ofStore, start, Derivation.byCopying_of_closed Members.copying_empty rfl]
  cases derive base <;> rfl

theorem settle_ofStore (s left : Store α ρ) (named : List Field) (derive : Derivation α ρ) :
    (ofStore s).settle named derive left = ofStore left := by
  simp only [settle, ofStore, start, Derivation.byCopying_of_closed Members.copying_empty rfl]
  split
  · rfl
  · cases derive s.active.params <;> rfl

theorem carryOut_ofStore (s : Store α ρ) (named : List Field) (p : Store.Plan α ρ) :
    (ofStore s).carryOut named p = (ofStore (s.carryOut p).1, (s.carryOut p).2) := by
  cases p with
  | done answer => rfl
  | commit c =>
    simp only [carryOut, restricted_ofStore, settle_ofStore]
    rfl

theorem write_ofStore (s : Store α ρ) (w : Store.Write) :
    (ofStore s).write w = (ofStore (s.write w).1, (s.write w).2) := by
  have source : (ofStore s).store.source = s.source := rfl
  simp only [write, Store.write, carryOut_ofStore, source]
  cases (w.plan s.source : Logged Fault (Store.Plan α ρ)).outcome <;> rfl

theorem updates_ofStore (s : Store α ρ) (ts : List (Option String)) :
    (ofStore s).updates ts = (ofStore (s.updates ts).1, (s.updates ts).2) := by
  induction ts generalizing s with
  | nil => rfl
  | cons t r ih =>
    simp only [updates, Store.updates, write_ofStore, Store.update]
    cases (s.write (.update t)).2.outcome with
    | error e => rfl
    | ok b => simp only [ih]

theorem commitDuring_ofStore (s : Store α ρ) (outer : String) (inner : List (Option String)) :
    (ofStore s).commitDuring outer inner
      = (ofStore (s.commitDuring outer inner).1, (s.commitDuring outer inner).2) := by
  simp only [commitDuring, Store.commitDuring, updates_ofStore, restricted_ofStore, settle_ofStore]
  rfl

omit [Quantity α] in
theorem report_ofStore (s : Store α ρ) (band : Logged Fault Band) :
    (ofStore s).report band = s.reportIn band := rfl

/-- Where sets cannot be copied, no write changes a store. -/
theorem store_write_of_uncopyable {s : ObjectStore α ρ} {m : Misfit}
    (uncopyable : s.others.copying = .error m) (w : Store.Write) :
    (s.write w).1.store = s.store := by
  have fails : ∀ named (derive : Derivation α ρ) base, ∃ e,
      s.restricted named derive base = .error e := by
    intro named derive base
    simp only [restricted, Derivation.byCopying, Members.copyNamed, uncopyable]
    cases derive base with
    | error e => exact ⟨e, rfl⟩
    | ok p => exact ⟨.unfit m, rfl⟩
  simp only [write]
  split
  · rfl
  · rename_i p _
    cases p with
    | done answer => rfl
    | commit c =>
      obtain ⟨e, he⟩ := fails w.named c.derive s.store.active.params
      have left : (s.store.carryOut (.commit { c with derive := s.restricted w.named c.derive })).1
          = s.store := by
        simp [Store.carryOut, Store.commit, Store.candidate, he, bind, Except.bind]
      simp [carryOut, settle, left]

end ObjectStore

end RoamTuning
