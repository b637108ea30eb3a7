import RoamTuning.Store

/-!
# Commits under contention

A commit reads the active snapshot, derives and checks a candidate from it, and
installs the candidate if the snapshot is still the active one; otherwise it
starts again from the newer set. Here the others act while the candidate is
being derived: `commitAmid` is given what happens to the store during each
attempt, and nothing happens during an attempt beyond those.

Results:

* `commitAmid_quiet`: with nobody else at work a commit needs one attempt.
* `calls_commitAmid_le`: there is at most one attempt more than there are
  disturbed ones.
-/

namespace RoamTuning.Store

variable {α ρ : Type} [Quantity α] [Row ρ α]

/-- How a commit under contention ended: the store it left, how often a
    candidate was derived, and the installed set or why there is none. -/
structure CommitReport (α ρ : Type) where
  store : Store α ρ
  calls : Nat
  result : Except Rejection (ParamSet α ρ)

/-- Commits while others act on the store: the n-th of `others` during the
    n-th attempt, after the base has been read. Model of the retries of `_commit`. -/
def commitAmid (derive : Derivation α ρ) :
    (others : List (Store α ρ → Store α ρ)) → Store α ρ → CommitReport α ρ
  | [], s =>
    match candidate derive s.active.params with
    | .error e => ⟨s, 1, .error e⟩
    | .ok p => ⟨(s.install? s.active p).getD s, 1, .ok p⟩
  | act :: rest, s =>
    let s' := act s
    match candidate derive s.active.params with
    | .error e => ⟨s', 1, .error e⟩
    | .ok p =>
      match s'.install? s.active p with
      | some s'' => ⟨s'', 1, .ok p⟩
      | none =>
        let report := commitAmid derive rest s'
        { report with calls := report.calls + 1 }

/-- Updates one after the other, with what each of them answered. A fault ends
    them. -/
def updates (s : Store α ρ) : List (Option String) → Store α ρ × Logged Fault (List Bool)
  | [] => (s, return [])
  | t :: r =>
    let (s', answer) := s.update t
    match answer.outcome with
    | .error e => (s', ⟨answer.log, .error e⟩)
    | .ok b =>
      let (s'', answers) := updates s' r
      (s'', ⟨answer.log ++ answers.log, answers.outcome.map (b :: ·)⟩)

/-- How a commit ended, after what updates answered that were carried out during
    its first attempt. -/
structure DisturbedReport (α ρ : Type) where
  answers : List Bool
  commit : CommitReport α ρ

/-- Commits while the first attempt is disturbed by updates that have left a
    store behind. A fault among these ends the commit as well, and a candidate
    that cannot be judged is a fault. -/
def commitAfter (derive : Derivation α ρ) (disturbed : Store α ρ × Logged Fault (List Bool))
    (s : Store α ρ) : Store α ρ × Logged Fault (DisturbedReport α ρ) :=
  match disturbed.2.outcome with
  | .error e => (disturbed.1, ⟨disturbed.2.log, .error e⟩)
  | .ok answers =>
    let report := commitAmid derive [fun _ => disturbed.1] s
    let outcome : Except Fault (DisturbedReport α ρ) :=
      match report.result with
      | .ok _ => .ok ⟨answers, report⟩
      | .error e =>
        match e.misfit? with
        | some m => .error (.unfit m)
        | none => .ok ⟨answers, report⟩
    (report.store, ⟨disturbed.2.log, outcome⟩)

/-- Commits one override text while the first attempt is disturbed by updates
    with others. -/
def commitDuring (s : Store α ρ) (outer : String) (inner : List (Option String)) :
    Store α ρ × Logged Fault (DisturbedReport α ρ) :=
  commitAfter (Override.parse outer) (s.updates inner) s

theorem commitAmid_quiet (derive : Derivation α ρ) (s : Store α ρ) :
    (commitAmid derive [] s).calls = 1 := by
  simp only [commitAmid]
  split <;> rfl

theorem calls_commitAmid_le (derive : Derivation α ρ)
    (others : List (Store α ρ → Store α ρ)) (s : Store α ρ) :
    (commitAmid derive others s).calls ≤ others.length + 1 := by
  induction others generalizing s with
  | nil => simp [commitAmid_quiet]
  | cons act rest ih =>
    simp only [commitAmid]
    split
    · simp
    · split
      · simp
      · have := ih (act s)
        simp only [List.length_cons]
        omega

end RoamTuning.Store
