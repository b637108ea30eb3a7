import RoamTuning.Proofs.Writes
import RoamTuning.Store.Objects

/-!
# What operations leave as it was

A write either leaves a store alone or installs one new set, which has the
parameters of the old one but for those that the write names. So a store is
changed as a whole or not at all, and never beyond what it was asked for.

Results:

* `write_cases`: a write leaves the store or installs a set, and when it does which.
* `write_of_unaccepted`: a write that is not accepted leaves the store.
* `get_derive_of_not_named`: a derived set has all the parameters that are not named.
* `operations_atomic`: what each operation leaves as it was.
-/

namespace RoamTuning

open ParamSet (Field)
open Override (keysOf)

variable {α ρ : Type} [Quantity α] [Row ρ α]

/-! ## Parameters that are not named -/

namespace Override

theorem accepts_of_parse {text : String} {base p : ParamSet α ρ} (h : parse text base = .ok p) :
    accepts text = true := by
  cases grammar : accepts text with
  | true => rfl
  | false =>
    rw [parse_of_malformed grammar] at h
    cases h

/-- A parameter is named only if its name is a key of the text. -/
theorem mem_keysOf_of_mem_named {text : String} (grammar : accepts text = true) {f : Field}
    (h : f ∈ named text) : f ∈ Field.tunable ∧ f.name ∈ keysOf text := by
  obtain ⟨tunable, found⟩ := List.mem_filter.1 h
  refine ⟨tunable, ?_⟩
  by_contra absent
  rw [keysOf, ← pairsOf_of_accepts grammar, ← Table.mem_keys_ofPairs,
    ← Table.get?_eq_none_iff] at absent
  rw [Table.contains, pairTable, absent] at found
  cases found

end Override

theorem ParamSet.get_setRssi_of_ne (p : ParamSet α ρ) {b : Band} (r : ρ) {f : Field}
    (other : f ≠ .array b.key) : (p.setRssi b r).get f = p.get f := by
  cases f with
  | array k =>
    have different : k ≠ b.key := fun e => other (congrArg Field.array e)
    have kept : (p.setRssi b r).array k = p.array k := by
      rw [array, setRssi, Tunables.array_setArray, if_neg different]
      rfl
    exact congrArg Row.value kept
  | scalar k =>
    have kept : (p.setRssi b r).scalar k = p.scalar k := Tunables.scalar_setArray _ _ _ _
    exact congrArg Quantity.value kept
  | constant c => rfl
  | beaconBoost6GHz => rfl

namespace Store

/-- Writes name parameters that can be changed at run time. -/
theorem Write.tunable_of_mem_named {w : Write} {f : Field} (h : f ∈ w.named) :
    f ∈ Field.tunable := by
  have array : ∀ b : Band, Field.array b.key ∈ Field.tunable := fun b => by cases b <;> decide
  cases w with
  | update text =>
    cases text with
    | none => cases h
    | some text => exact (List.mem_filter.1 h).1
  | bandThresholds b v =>
    obtain rfl := List.mem_singleton.1 h
    exact array b
  | thresholds band v =>
    simp only [Write.named] at h
    split at h
    · rename_i b _
      obtain rfl := List.mem_singleton.1 h
      exact array b
    · cases h

theorem get_derive_of_bandThresholds {source : Option Source} {b : Band} {v : Value}
    {c : Change α ρ} (h : (planBandThresholds source b v).outcome = .ok (.commit c))
    {p q : ParamSet α ρ} (derived : c.derive p = .ok q) {f : Field} (other : f ≠ .array b.key) :
    q.get f = p.get f := by
  rcases planBandThresholds_cases h with idle | ⟨ns, -, plan⟩
  · cases idle
  · obtain rfl := Plan.commit.inj plan
    obtain rfl := Except.ok.inj derived
    exact p.get_setRssi_of_ne _ other

/-- **A derived set has all the parameters that its write does not name.** -/
theorem get_derive_of_not_named {source : Option Source} {w : Write} {c : Change α ρ}
    (h : (w.plan source).outcome = .ok (.commit c)) {p q : ParamSet α ρ}
    (derived : c.derive p = .ok q) {f : Field} (other : f ∉ w.named) : q.get f = p.get f := by
  cases w with
  | update text =>
    cases text with
    | none => cases h
    | some text =>
      obtain ⟨-, rfl⟩ := planUpdate_eq_commit_iff.1 (Except.ok.inj h)
      exact Override.get_parse_of_not_named derived other
  | bandThresholds b v =>
    exact get_derive_of_bandThresholds h derived (by simpa [Write.named] using other)
  | thresholds band v =>
    simp only [Write.plan, Write.named] at h other
    cases names : Band.ofValue? band with
    | none =>
      rw [names] at h
      cases h
    | some b =>
      rw [names] at h other
      exact get_derive_of_bandThresholds h derived (by simpa using other)

/-! ## How a write leaves a store -/

omit [Quantity α] [Row ρ α] in
/-- No rejection is accepted. -/
theorem rejected_ne_true (c : Change α ρ) (r : Rejection) : (c.rejected r).outcome ≠ .ok true := by
  intro accepted
  rw [Change.rejected] at accepted
  cases misfit : r.misfit? with
  | some m =>
    rw [misfit] at accepted
    cases accepted
  | none =>
    rw [misfit] at accepted
    cases Except.ok.inj accepted

/-- **A write leaves the store, or it is accepted and installs a set.** It is
    accepted without a new set only if it asks for nothing. -/
theorem write_cases (s : Store α ρ) (w : Write) :
    ((s.write w).1 = s ∧ ((s.write w).2.outcome = .ok true ↔ w.AsksNothing))
      ∨ ∃ (c : Change α ρ) (p : ParamSet α ρ), (w.plan s.source).outcome = .ok (.commit c)
        ∧ c.derive s.active.params = .ok p ∧ ¬ w.AsksNothing
        ∧ (s.write w).1 = s.installed p ∧ (s.write w).2.outcome = .ok true := by
  cases plan : (w.plan s.source : Logged Fault (Plan α ρ)).outcome with
  | error e =>
    obtain ⟨left, answer⟩ := write_of_fault plan
    refine .inl ⟨left, iff_of_false (by simp [answer]) fun asks => ?_⟩
    cases w with
    | update text => cases text <;> cases plan
    | _ => exact asks
  | ok p =>
    cases p with
    | done b =>
      obtain ⟨left, answer⟩ := write_of_done plan
      refine .inl ⟨left, ?_⟩
      rw [answer]
      cases plan_cases plan with
      | idle asks => exact iff_of_true rfl asks
      | unusable asks => exact iff_of_false (by simp) asks
    | commit c =>
      have asks : ¬ w.AsksNothing := (plan_cases plan).asks
      cases derived : candidate c.derive s.active.params with
      | ok p =>
        obtain ⟨left, answer⟩ := write_of_accepted plan derived
        exact .inr ⟨c, p, rfl, derive_of_candidate derived, asks, left, answer⟩
      | error r =>
        obtain ⟨left, answer⟩ := write_of_refused plan derived
        exact .inl ⟨left, iff_of_false (answer ▸ rejected_ne_true c r) asks⟩

/-- A write that is not accepted leaves the store. -/
theorem write_of_unaccepted {s : Store α ρ} {w : Write} (h : (s.write w).2.outcome ≠ .ok true) :
    (s.write w).1 = s := by
  rcases s.write_cases w with ⟨left, -⟩ | ⟨-, -, -, -, -, -, answer⟩
  · exact left
  · exact absurd answer h

/-- **A write keeps every parameter that it does not name.** -/
theorem get_write_of_not_named (s : Store α ρ) {w : Write} {f : Field} (other : f ∉ w.named) :
    (s.write w).1.active.params.get f = s.active.params.get f := by
  rcases s.write_cases w with ⟨left, -⟩ | ⟨c, p, plan, derived, -, left, -⟩
  · rw [left]
  · rw [left]
    exact get_derive_of_not_named plan derived other

/-- An update keeps every parameter but the tunable ones among its keys. A text
    that is no list of pairs changes nothing at all, whatever it names. -/
theorem get_update_of_not_key (s : Store α ρ) {text : String} {f : Field}
    (absent : f ∈ Field.tunable → f.name ∉ keysOf text) :
    (s.update (some text)).1.active.params.get f = s.active.params.get f := by
  rcases s.write_cases (.update (some text)) with ⟨left, -⟩ | ⟨c, p, plan, derived, -, -, -⟩
  · rw [update, left]
  · refine s.get_write_of_not_named fun named => ?_
    obtain ⟨-, rfl⟩ := planUpdate_eq_commit_iff.1 (Except.ok.inj plan)
    obtain ⟨tunable, key⟩ :=
      Override.mem_keysOf_of_mem_named (Override.accepts_of_parse derived) named
    exact absent tunable key

/-- What the operations of a store leave as it was. -/
structure Atomic (s : Store α ρ) : Prop where
  /-- A write that is rejected, or ends in a fault, leaves the store: the very same
      snapshot stays active. -/
  unaccepted : ∀ w : Write, (s.write w).2.outcome ≠ .ok true → (s.write w).1 = s
  /-- So does a write that asks for nothing, and that one is accepted. -/
  nothing : ∀ w : Write, w.AsksNothing →
    (s.write w).2.outcome = .ok true ∧ (s.write w).1 = s
  /-- An update keeps all parameters but the tunable ones among its keys. -/
  update : ∀ text (f : Field), (f ∈ Field.tunable → f.name ∉ keysOf text) →
    (s.update (some text)).1.active.params.get f = s.active.params.get f
  /-- New thresholds keep all parameters but those of their band, -/
  bandThresholds : ∀ b v (f : Field), f ≠ .array b.key →
    (s.setBandThresholds b v).1.active.params.get f = s.active.params.get f
  /-- also where the band is given by a value, which has to name one. -/
  thresholds : ∀ band v (f : Field), (∀ b, Band.ofValue? band = some b → f ≠ .array b.key) →
    (s.setThresholds band v).1.active.params.get f = s.active.params.get f
  /-- Writes touch the active set only, -/
  write : ∀ w : Write, (s.write w).1 = { s with active := (s.write w).1.active }
  /-- and new weights touch the weights only. -/
  setWeights : ∀ weights, s.setWeights weights = { s with weights := Table.ofPairs weights }

/-- **Every operation is carried out as a whole or not at all**, and it leaves what
    it was not asked to change. -/
theorem operations_atomic (s : Store α ρ) : s.Atomic := by
  refine
    { unaccepted := fun _ => write_of_unaccepted, nothing := ?_
      update := fun _ _ => s.get_update_of_not_key, bandThresholds := ?_, thresholds := ?_
      write := ?_, setWeights := fun _ => rfl }
  · intro w asks
    rcases s.write_cases w with ⟨left, answer⟩ | ⟨-, -, -, -, asked, -, -⟩
    · exact ⟨answer.2 asks, left⟩
    · exact absurd asks asked
  · intro b v f other
    have unnamed : f ∉ (Write.bandThresholds b v).named := by simpa [Write.named] using other
    exact s.get_write_of_not_named unnamed
  · intro band v f other
    have unnamed : f ∉ (Write.thresholds band v).named := by
      cases names : Band.ofValue? band with
      | none => simp [Write.named, names]
      | some b => simpa [Write.named, names] using other b names
    exact s.get_write_of_not_named unnamed
  · intro w
    rcases s.write_cases w with ⟨left, -⟩ | ⟨c, p, -, -, -, left, -⟩
    · rw [left]
    · rw [left, installed]

-- sixteen parameters are no key of any text, so that updates never change them
example : (Field.all.filter (· ∉ Field.tunable)).length = 16 := rfl

end Store

end RoamTuning
