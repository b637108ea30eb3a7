import RoamTuning.Proofs.Contention
import RoamTuning.Proofs.Resets

/-!
# Thresholds given by values of any kind

A request for the thresholds of a band may have anything for them. Its items are
converted one after the other, and the first one that has no integer ends the request:
an infinite one with a fault, any other one with a rejection. What is left are four
integers, or the defaults of the band in the place of four zeros, and the request is
accepted exactly if they are in the domain.

Results:

* `Outcome.mapM_eq_error_iff`: which item decides about a conversion that fails.
* `plan_of_asked`, `plan_of_unasked`, `plan_of_overflows`: what a request comes to.
* `answered_iff`: writes are answered, except where a threshold is infinite.
* `thresholds_outcome`: which thresholds are accepted, what is installed then, and what
  is logged otherwise.
-/

namespace RoamTuning

/-! ## Converting the items of a value -/

/-- A computation for each item ends with the first error. -/
theorem Outcome.mapM_eq_error_iff {ε α β : Type} {f : α → Except ε β} {xs : List α} {e : ε} :
    xs.mapM f = .error e ↔ ∃ before x after, xs = before ++ x :: after
      ∧ (∀ y ∈ before, ∃ b, f y = .ok b) ∧ f x = .error e := by
  induction xs with
  | nil => simp [pure, Except.pure]
  | cons y r ih =>
    rw [List.mapM_cons]
    simp only [List.cons_eq_append_iff]
    cases first : f y with
    | error d =>
      constructor
      · intro h
        obtain rfl := Except.error.inj h
        exact ⟨[], y, r, .inl ⟨rfl, rfl⟩, by simp, first⟩
      · rintro ⟨before, x, after, ⟨rfl, split⟩ | ⟨rest, rfl, -⟩, succeed, fails⟩
        · obtain ⟨rfl, -⟩ := List.cons.inj split
          rw [first] at fails
          obtain rfl := Except.error.inj fails
          rfl
        · obtain ⟨b, ok⟩ := succeed y List.mem_cons_self
          rw [first] at ok
          cases ok
    | ok b =>
      have peeled : (do let bs ← r.mapM f; return b :: bs : Except ε (List β)) = .error e
          ↔ r.mapM f = .error e := by
        cases r.mapM f <;> simp [bind, Except.bind, pure, Except.pure]
      show (do let bs ← r.mapM f; return b :: bs : Except ε (List β)) = .error e ↔ _
      rw [peeled, ih]
      constructor
      · rintro ⟨before, x, after, rfl, succeed, fails⟩
        exact ⟨y :: before, x, after, .inr ⟨before, rfl, rfl⟩,
          List.forall_mem_cons.2 ⟨⟨b, first⟩, succeed⟩, fails⟩
      · rintro ⟨before, x, after, ⟨rfl, split⟩ | ⟨rest, rfl, split⟩, succeed, fails⟩
        · obtain ⟨rfl, -⟩ := List.cons.inj split
          rw [first] at fails
          cases fails
        · exact ⟨rest, x, after, split, (List.forall_mem_cons.1 succeed).2, fails⟩

namespace Value

theorem toInts_eq_mapM (vs : List Value) : toInts vs = vs.mapM toInt := by
  induction vs with
  | nil => rfl
  | cons v r ih => rw [toInts, ih, List.mapM_cons]

/-- Whether a value consists of items that convert to given integers. -/
def Converts (v : Value) (ns : List Int) : Prop :=
  ∃ items, v.items = .ok items ∧ List.Forall₂ (fun x n => x.toInt = .ok n) items ns

/-- Whether a value has an infinite item, and before it only items that convert. -/
def Overflows (v : Value) : Prop :=
  ∃ before negative after, v.items = .ok (before ++ .float (.infinite negative) :: after)
    ∧ ∀ x ∈ before, ∃ n, x.toInt = .ok n

theorem toInts_items_eq_ok_iff {v : Value} {ns : List Int} :
    v.items >>= toInts = .ok ns ↔ v.Converts ns := by
  rw [Outcome.bind_eq_ok_iff, Converts]
  simp only [toInts_eq_mapM, Override.mapM_eq_ok_iff]

theorem toInts_items_eq_infinite_iff {v : Value} :
    v.items >>= toInts = .error .infinite ↔ v.Overflows := by
  cases given : v.items with
  | error m =>
    have kind : m = .notIterable v.kindName := by
      cases v <;> simp [items] at given <;> exact given.symm
    rw [kind]
    refine iff_of_false (by simp [bind, Except.bind]) ?_
    rintro ⟨before, negative, after, h, -⟩
    rw [given] at h
    cases h
  | ok vs =>
    show toInts vs = .error .infinite ↔ _
    rw [toInts_eq_mapM, Outcome.mapM_eq_error_iff]
    constructor
    · rintro ⟨before, x, after, rfl, converts, infinite⟩
      obtain ⟨negative, rfl⟩ := (toInt_eq_error_infinite_iff x).1 infinite
      exact ⟨before, negative, after, given, converts⟩
    · rintro ⟨before, negative, after, h, converts⟩
      obtain rfl := Except.ok.inj (given.symm.trans h)
      exact ⟨before, _, after, rfl, converts, rfl⟩

theorem Converts.unique {v : Value} {ns ms : List Int} (h : v.Converts ns) (h' : v.Converts ms) :
    ns = ms :=
  Except.ok.inj ((toInts_items_eq_ok_iff.2 h).symm.trans (toInts_items_eq_ok_iff.2 h'))

end Value

/-! ## Records of rejections -/

/-- Whether a record says that a request is rejected. -/
def Record.Rejects (r : Record) : Prop := ∃ reason, r = ⟨.warning, "Rejected " ++ reason⟩

theorem head?_append_of_head? {s : String} {c : Char} (h : s.toList.head? = some c) (t : String) :
    (s ++ t).toList.head? = some c := by
  rw [String.toList_append, List.head?_append, h]
  rfl

/-- What is said of a default is no rejection. -/
theorem Question.not_rejects_of_record? {q : Question} {a : Answer} {r : Record}
    (h : q.record? a = some r) : ¬ r.Rejects := by
  have unusable : ("Unusable platform default for " ++ q.name).toList.head? = some 'U' :=
    head?_append_of_head? rfl _
  have missing : ("No platform default for " ++ q.name).toList.head? = some 'N' :=
    head?_append_of_head? rfl _
  have start : r.message.toList.head? = some 'U' ∨ r.message.toList.head? = some 'N' := by
    unfold record? at h
    cases a with
    | value v =>
      simp only [Option.ite_none_left_eq_some] at h
      obtain ⟨-, h⟩ := h
      obtain rfl := Option.some.inj h
      left
      iterate 4 apply head?_append_of_head?
      exact unusable
    | absent name =>
      obtain rfl := Option.some.inj h
      right
      iterate 2 apply head?_append_of_head?
      exact missing
    | wrongKind m =>
      obtain rfl := Option.some.inj h
      left
      iterate 2 apply head?_append_of_head?
      exact unusable
    | wrongValue m =>
      obtain rfl := Option.some.inj h
      left
      iterate 2 apply head?_append_of_head?
      exact unusable
    | broken m => cases h
  rintro ⟨reason, rfl⟩
  have rejects : ("Rejected " ++ reason).toList.head? = some 'R' := head?_append_of_head? rfl _
  rw [rejects] at start
  rcases start with e | e
  · exact absurd e (by decide)
  · exact absurd e (by decide)

/-- Loading the defaults of a band rejects nothing. -/
theorem not_rejects_of_loadBand {source : Option Source} (working : ∀ s ∈ source, s.Working)
    {b : Band} {r : Record} (h : r ∈ (loadBand source b ParamSet.builtIn).log) : ¬ r.Rejects := by
  cases source with
  | none => cases h
  | some s =>
    rw [loadBand_eq, (working s rfl).asking, Logged.bind_of_ok _ rfl] at h
    simp only [Logged.pure_eq, List.append_nil, Source.records, List.mem_filterMap] at h
    obtain ⟨q, -, recorded⟩ := h
    exact Question.not_rejects_of_record? recorded

namespace Store

/-! ## What a request comes to -/

/-- The thresholds that a value asks for at a band: the four integers that it consists
    of, or the defaults of the band where these are zeros. -/
inductive Asked (source : Option Source) (b : Band) (v : Value) : List Int → Prop
  | given {ns : List Int} (converts : v.Converts ns) (four : ns.length = 4)
      (other : ns ≠ [0, 0, 0, 0]) : Asked source b v ns
  | defaults {ns : List Int} (converts : v.Converts [0, 0, 0, 0])
      (loaded : (loadBand source b ParamSet.builtIn).outcome = .ok ns) : Asked source b v ns

variable {source : Option Source} {b : Band} {v : Value} {ns : List Int}

theorem Asked.length_eq (h : Asked source b v ns) : ns.length = 4 := by
  cases h with
  | given _ four _ => exact four
  | defaults _ loaded => exact length_loadBand loaded

theorem Asked.unique {ms : List Int} (h : Asked source b v ns) (h' : Asked source b v ms) :
    ns = ms := by
  cases h with
  | given converts _ other =>
    cases h' with
    | given converts' _ _ => exact converts.unique converts'
    | defaults converts' _ => exact absurd (converts.unique converts') other
  | defaults converts loaded =>
    cases h' with
    | given converts' _ other => exact absurd (converts'.unique converts) other
    | defaults _ loaded' => exact Except.ok.inj (loaded.symm.trans loaded')

/-- Thresholds that are asked for are planned to be set. -/
theorem plan_of_asked (working : ∀ s ∈ source, s.Working) (h : Asked source b v ns) :
    ∃ loading, (planBandThresholds source b v : Logged Fault (Plan Int (List Int)))
        = ⟨loading, .ok (planThresholds b ns)⟩ ∧ ∀ r ∈ loading, ¬ r.Rejects := by
  have planned : ∀ {loading}, requestedThresholds source b v = ⟨loading, .ok (some ns)⟩ →
      (planBandThresholds source b v : Logged Fault (Plan Int (List Int)))
        = ⟨loading, .ok (planThresholds b ns)⟩ := by
    intro loading requested
    rw [planBandThresholds, requested, Logged.bind_of_ok _ rfl]
    show (⟨loading ++ [], .ok (planThresholds b ns)⟩ : Logged Fault (Plan Int (List Int))) = _
    rw [List.append_nil]
  cases h with
  | given converts four other =>
    have requested : requestedThresholds source b v = ⟨[], .ok (some ns)⟩ := by
      have complete : ns.length = resetThresholds.length := four
      have kept : ns ≠ resetThresholds := other
      rw [requestedThresholds, Value.toInts_items_eq_ok_iff.2 converts]
      show (if ns.length ≠ resetThresholds.length then _ else _) = _
      rw [if_neg (not_not.2 complete), if_neg kept, Logged.pure_eq]
    exact ⟨[], planned requested, by simp⟩
  | defaults converts loaded =>
    have requested : requestedThresholds source b v
        = ⟨(loadBand source b ParamSet.builtIn).log, .ok (some ns)⟩ := by
      have own : loadBand source b ParamSet.builtIn
          = ⟨(loadBand source b ParamSet.builtIn).log, .ok ns⟩ := by rw [← loaded]
      rw [requestedThresholds, Value.toInts_items_eq_ok_iff.2 converts]
      show some <$> (loadBand source b ParamSet.builtIn).mapError Fault.load = _
      rw [own, map_eq_pure_bind, Logged.bind_of_ok _ rfl, Logged.pure_eq, List.append_nil]
      rfl
    exact ⟨_, planned requested, fun r => not_rejects_of_loadBand working⟩

/-- An infinite threshold is a fault. -/
theorem plan_of_overflows (h : v.Overflows) :
    (planBandThresholds source b v : Logged Fault (Plan Int (List Int)))
      = ⟨[], .error (.unfit .infinite)⟩ := by
  have requested : requestedThresholds source b v = ⟨[], .error (.unfit .infinite)⟩ := by
    rw [requestedThresholds, Value.toInts_items_eq_infinite_iff.2 h]
    rfl
  rw [planBandThresholds, requested, Logged.bind_of_error _ rfl]

/-- A record about a band is one of a rejection. -/
theorem startsRejection :
    "Rejected RSSI thresholds for band " = "Rejected " ++ "RSSI thresholds for band " := by
  decide

/-- Any other request is rejected at once. -/
theorem plan_of_unasked (working : ∀ s ∈ source, s.Working) (finite : ¬ v.Overflows)
    (h : ∀ ns, ¬ Asked source b v ns) :
    ∃ reason, (planBandThresholds source b v : Logged Fault (Plan Int (List Int)))
      = ⟨[⟨.warning, "Rejected " ++ reason⟩], .ok (.done false)⟩ := by
  have planned : ∀ {reason},
      requestedThresholds source b v = reject none ("Rejected " ++ reason) →
      (planBandThresholds source b v : Logged Fault (Plan Int (List Int)))
        = ⟨[⟨.warning, "Rejected " ++ reason⟩], .ok (.done false)⟩ := by
    intro reason requested
    rw [planBandThresholds, requested]
    rfl
  cases converted : v.items >>= Value.toInts with
  | error m =>
    refine ⟨"RSSI thresholds for band " ++ (b.shown ++ (": " ++ m.message)), planned ?_⟩
    unfold requestedThresholds
    split
    · rename_i infinite
      exact absurd (Value.toInts_items_eq_infinite_iff.1 infinite) finite
    · rename_i e _ same
      obtain rfl := Except.error.inj (converted.symm.trans same)
      rw [startsRejection]
      simp only [String.append_assoc]
    · rename_i ns same
      rw [converted] at same
      cases same
  | ok ns =>
    have converts := Value.toInts_items_eq_ok_iff.1 converted
    by_cases four : ns.length = 4
    · by_cases zeros : ns = [0, 0, 0, 0]
      · subst zeros
        obtain ⟨-, own, -, loaded, -⟩ := loaded_cases working b
        exact absurd (.defaults converts loaded) (h own)
      · exact absurd (.given converts four zeros) (h ns)
    · refine ⟨b.key.name ++ (" thresholds " ++ (Value.showIntegers ns ++ ": need 4 values")),
        planned ?_⟩
      have incomplete : ns.length ≠ resetThresholds.length := four
      rw [requestedThresholds, converted]
      show (if ns.length ≠ resetThresholds.length then _ else _) = _
      rw [if_pos incomplete]
      simp only [String.append_assoc]

/-! ## What a request for thresholds does -/

/-- The band and the thresholds of a write that is a request for these; there is no band
    if the one that is given is unknown. -/
def Write.request? : Write → Option (Option Band × Value)
  | update _ => none
  | bandThresholds b v => some (some b, v)
  | thresholds band v => some (Band.ofValue? band, v)

/-- Whether a write sets the thresholds of a band to a value with an infinite item, and
    before it only items that convert. -/
def Write.Overflows (w : Write) : Prop := ∃ b v, w.request? = some (some b, v) ∧ v.Overflows

variable {w : Write} {band? : Option Band}

theorem plan_of_request (source : Option Source) (request : w.request? = some (some b, v)) :
    (w.plan source : Logged Fault (Plan Int (List Int))) = planBandThresholds source b v := by
  cases w with
  | update text => cases request
  | bandThresholds b' v' =>
    obtain ⟨same, rfl⟩ := Prod.mk.inj (Option.some.inj request)
    obtain rfl := Option.some.inj same
    rfl
  | thresholds band v' =>
    obtain ⟨names, rfl⟩ := Prod.mk.inj (Option.some.inj request)
    simp only [Write.plan, names]

/-- A band that is unknown is a reason to reject the request, whatever the thresholds. -/
theorem plan_of_unknown (source : Option Source) (request : w.request? = some (none, v)) :
    ∃ reason, (w.plan source : Logged Fault (Plan Int (List Int)))
      = ⟨[⟨.warning, "Rejected " ++ reason⟩], .ok (.done false)⟩ := by
  cases w with
  | update text => cases request
  | bandThresholds b' v' =>
    obtain ⟨absurdity, -⟩ := Prod.mk.inj (Option.some.inj request)
    cases absurdity
  | thresholds band v' =>
    obtain ⟨names, rfl⟩ := Prod.mk.inj (Option.some.inj request)
    refine ⟨"RSSI thresholds for band " ++ (band.shown ++ (": " ++ Band.unknownMessage band)), ?_⟩
    simp only [Write.plan, names, startsRejection, String.append_assoc]
    rfl

/-- A write does what its plan says. -/
theorem write_of_plan {s : IntStore} {log : List Record} {p : Plan Int (List Int)}
    (h : w.plan s.source = ⟨log, .ok p⟩) :
    s.write w
      = ((s.carryOut p).1, ⟨log ++ (s.carryOut p).2.log, (s.carryOut p).2.outcome⟩) := by
  simp only [write, h]

/-- Whether a write was rejected: the store is as it was, the answer is no, and the one
    rejection that is logged comes after what is said of the defaults. -/
def Rejected (s : IntStore) (w : Write) : Prop :=
  ∃ loading reason, s.write w = (s, ⟨loading ++ [⟨.warning, "Rejected " ++ reason⟩], .ok false⟩)
    ∧ ∀ r ∈ loading, ¬ r.Rejects

theorem rejected_of_plan {s : IntStore} {reason : String}
    (h : (w.plan s.source : Logged Fault (Plan Int (List Int)))
      = ⟨[⟨.warning, "Rejected " ++ reason⟩], .ok (.done false)⟩) :
    Rejected s w :=
  ⟨[], reason, write_of_plan h, by simp⟩

/-- A request without infinite thresholds is accepted or rejected. It is accepted if it
    asks for thresholds in the domain. -/
theorem write_of_request {s : IntStore} (h : s.Sound) (working : ∀ t ∈ s.source, t.Working)
    (request : w.request? = some (band?, v)) (finite : ¬ w.Overflows) :
    (∃ b ∈ band?, ∃ ns loading, Asked s.source b v ns ∧ ParamSet.RssiInDomain ns
        ∧ s.write w = (s.installed (s.active.params.setRssi b ns), ⟨loading, .ok true⟩))
      ∨ ((∀ b ∈ band?, ∀ ns, Asked s.source b v ns → ¬ ParamSet.RssiInDomain ns)
        ∧ Rejected s w) := by
  cases band? with
  | none =>
    obtain ⟨reason, plan⟩ := plan_of_unknown s.source request
    exact .inr ⟨by simp, rejected_of_plan plan⟩
  | some b =>
    have plan := plan_of_request s.source request
    by_cases asked : ∃ ns, Asked s.source b v ns
    · obtain ⟨ns, asked⟩ := asked
      obtain ⟨loading, planned, quiet⟩ := plan_of_asked working asked
      have written := write_of_plan (plan.trans planned)
      by_cases valid : ParamSet.RssiInDomain ns
      · rw [carryOut_thresholds_of_inDomain h b valid] at written
        exact .inl ⟨b, rfl, ns, _, asked, valid, written⟩
      · obtain ⟨reason, refused⟩ :=
          carryOut_thresholds_of_not_inDomain h b asked.length_eq valid
        rw [refused] at written
        refine .inr ⟨fun b' named ms asked' => ?_, loading, reason, written, quiet⟩
        obtain rfl := Option.some.inj named
        exact asked.unique asked' ▸ valid
    · have unasked : ∀ ns, ¬ Asked s.source b v ns := fun ns h => asked ⟨ns, h⟩
      have converts : ¬ v.Overflows := fun h => finite ⟨b, v, request, h⟩
      obtain ⟨reason, planned⟩ := plan_of_unasked working converts unasked
      refine .inr ⟨fun b' named ns asked' => ?_, rejected_of_plan (plan.trans planned)⟩
      obtain rfl := Option.some.inj named
      exact absurd asked' (unasked ns)

/-- An infinite threshold is a fault, and the store is as it was. -/
theorem write_of_overflows (s : IntStore) (h : w.Overflows) :
    s.write w = (s, ⟨[], .error (.unfit .infinite)⟩) := by
  obtain ⟨b, v, request, overflows⟩ := h
  have plan := (plan_of_request s.source request).trans (plan_of_overflows overflows)
  simp only [write, plan]

/-! ## Answers -/

/-- **Writes are answered, except where a threshold is infinite.** In every state of a
    store without a source, or with one that works, an update is answered whatever its
    text, and so is a request for thresholds of any kind for a band of any kind, unless
    the band is known and the first threshold that has no integer is infinite. That is a
    fault, which leaves the store as it is and says nothing. The integers of the store have
    at most `Numeral.digitLimit` digits, so that an updated set can be rendered. -/
theorem answered_iff {t : IntStore} (reached : Reachable t)
    (working : ∀ s ∈ t.source, s.Working) (w : Write) :
    ((∃ answer, (t.write w).2.outcome = .ok answer) ↔ ¬ w.Overflows)
      ∧ (w.Overflows → t.write w = (t, ⟨[], .error (.unfit .infinite)⟩)) := by
  refine ⟨⟨?_, fun finite => ?_⟩, write_of_overflows t⟩
  · rintro ⟨answer, answered⟩ overflows
    rw [write_of_overflows t overflows] at answered
    cases answered
  · cases request : w.request? with
    | none =>
      cases w with
      | update text =>
        obtain ⟨answer, answered, -⟩ := update_cases reached.sound text
        exact ⟨answer, answered⟩
      | bandThresholds b v => cases request
      | thresholds band v => cases request
    | some r =>
      obtain ⟨b, -, ns, loading, -, -, written⟩ | ⟨-, loading, reason, written, -⟩ :=
        write_of_request reached.sound working request finite
      · exact ⟨true, by rw [written]⟩
      · exact ⟨false, by rw [written]⟩

/-- Thresholds of which the first is not a number and the second is infinite: the first
    one decides, and the request is rejected. -/
theorem answered_unsourced :
    let v : Value := .list [.float .nan, .float (.infinite false), .int (-70), .int (-57)]
    Reachable unsourced ∧ (∀ s ∈ unsourced.source, s.Working)
      ∧ ∃ answer, (unsourced.write (.thresholds (.text "5ghz") v)).2.outcome = .ok answer := by
  intro v
  have reached : Reachable unsourced := ⟨unsourced, [], built_unsourced, rfl⟩
  have working : ∀ s ∈ unsourced.source, s.Working := by rintro s ⟨⟩
  refine ⟨reached, working, (answered_iff reached working _).1.2 ?_⟩
  rintro ⟨b, v', request, overflows⟩
  obtain ⟨-, rfl⟩ := Prod.mk.inj (Option.some.inj request)
  have decided : v.items >>= Value.toInts = .error .notANumber := rfl
  rw [Value.toInts_items_eq_infinite_iff.2 overflows] at decided
  cases decided

/-- An infinite threshold at a known band, in a store without a source. -/
theorem unanswered_unsourced :
    let v : Value := .list [.float (.infinite false), .int (-77), .int (-70), .int (-57)]
    Reachable unsourced ∧ unsourced.source = none
      ∧ ¬ ∃ answer, (unsourced.write (.thresholds (.text "5ghz") v)).2.outcome = .ok answer := by
  refine ⟨⟨unsourced, [], built_unsourced, rfl⟩, rfl, ?_⟩
  rintro ⟨answer, answered⟩
  cases answered

/-! ## Thresholds that are accepted -/

/-- **What becomes of a request for thresholds** of any kind in which no infinite item
    is met, in every state of a store without a source, or with one that works. It is
    answered. The answer is yes exactly if the band is known and the four integers that
    the value converts to are in the domain, or are zeros and the defaults of the band
    are. Then these become the thresholds of that band, and nothing else changes.
    Otherwise nothing changes, and one rejection is logged. -/
theorem thresholds_outcome {t : IntStore} (reached : Reachable t)
    (working : ∀ s ∈ t.source, s.Working) {w : Write} {band? : Option Band} {v : Value}
    (request : w.request? = some (band?, v)) (finite : ¬ w.Overflows) :
    ∃ answer, (t.write w).2.outcome = .ok answer
      ∧ (answer = true ↔
        ∃ b ∈ band?, ∃ ns, Asked t.source b v ns ∧ ParamSet.RssiInDomain ns)
      ∧ (answer = true → ∀ b ∈ band?, ∀ ns, Asked t.source b v ns →
        (t.write w).1 = t.installed (t.active.params.setRssi b ns)
          ∧ (t.write w).1.active.params.rssi b = ns)
      ∧ (answer = false → Rejected t w) := by
  obtain ⟨b, named, ns, loading, asked, valid, written⟩ | ⟨invalid, rejected⟩ :=
    write_of_request reached.sound working request finite
  · rw [written]
    have accepted : ∃ b ∈ band?, ∃ ns, Asked t.source b v ns ∧ ParamSet.RssiInDomain ns :=
      ⟨b, named, ns, asked, valid⟩
    refine ⟨true, rfl, iff_of_true rfl accepted, fun _ b' named' ms asked' => ?_, by simp⟩
    obtain rfl := Option.some.inj (named.symm.trans named')
    obtain rfl := asked.unique asked'
    refine ⟨rfl, ?_⟩
    show (t.active.params.setRssi b ns).rssi b = ns
    rw [ParamSet.rssi_of_setRssi, if_pos rfl]
  · have refused := rejected
    obtain ⟨loading, reason, written, -⟩ := rejected
    refine ⟨false, by rw [written], iff_of_false (by simp) ?_, by simp, fun _ => refused⟩
    rintro ⟨b, named, ns, asked, valid⟩
    exact invalid b named ns asked valid

/-- A text of one digit, a truth value, a fraction below one and a zero. -/
def mixedZeros : Value := .tuple [.text "0", .bool false, .float (.finite true 1 (-1)), .int 0]

/-- They all convert to zero, and the defaults of the band are installed again. -/
theorem thresholds_of_attuned :
    let t := ((World.start attuned []).session retuning).store
    t.active.params.rssi .ghz24 = [-90, -85, -75, -65]
      ∧ (t.write (.thresholds (.text "2.4ghz") mixedZeros)).2.outcome = .ok true
      ∧ (t.write (.thresholds (.text "2.4ghz") mixedZeros)).1.active.params.rssi .ghz24
        = [-83, -80, -73, -50] := by
  intro t
  have built : Built attuned := .ofSource (build_of_loadSet loadSet_attuned false)
  have reached : Reachable t := ⟨attuned, retuning, built, rfl⟩
  have steady : ∀ e ∈ retuning, e.Steady := by simp [retuning, Event.Steady]
  have sameSource : t.source = some attunedSource :=
    (World.start attuned []).source_session steady
  have working : ∀ s ∈ t.source, s.Working := by
    rw [sameSource]
    rintro s ⟨⟩
    exact Source.working_ofValues _
  have request : (Write.thresholds (.text "2.4ghz") mixedZeros).request?
      = some (some .ghz24, mixedZeros) := by
    have names : Band.ofValue? (.text "2.4ghz") = some .ghz24 := by decide
    simp only [Write.request?, names]
  have converts : mixedZeros.Converts [0, 0, 0, 0] :=
    Value.toInts_items_eq_ok_iff.1 (by decide +kernel)
  have finite : ¬ (Write.thresholds (.text "2.4ghz") mixedZeros).Overflows := by
    rintro ⟨b, v, request', overflows⟩
    obtain ⟨-, rfl⟩ := Prod.mk.inj (Option.some.inj (request.symm.trans request'))
    have infinite := Value.toInts_items_eq_infinite_iff.2 overflows
    rw [Value.toInts_items_eq_ok_iff.2 converts] at infinite
    cases infinite
  have asked : Asked t.source .ghz24 mixedZeros [-83, -80, -73, -50] := by
    rw [sameSource]
    exact .defaults converts (by decide +kernel)
  have valid : ParamSet.RssiInDomain [-83, -80, -73, -50] :=
    ((ParamSet.check_eq_ok_iff attuned.active.params).1 (by decide +kernel)).rssi .ghz24
  obtain ⟨answer, answered, accepted, installed, -⟩ :=
    thresholds_outcome reached working request finite
  obtain rfl : answer = true := accepted.2 ⟨.ghz24, rfl, _, asked, valid⟩
  exact ⟨by decide +kernel, answered, (installed rfl .ghz24 rfl _ asked).2⟩

end Store

end RoamTuning
