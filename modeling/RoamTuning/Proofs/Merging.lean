import Mathlib.Data.List.Nodup
import RoamTuning.Proofs.Rendering
import RoamTuning.Proofs.Verdicts

/-!
# Updates that follow one another

An update keeps what it does not name, and no check looks at two parameters. So
two updates come to what one update comes to that is written with the pairs of
both, where the later text has a say on every key that it names. Texts without a
common key may be written behind one another, and what each of them is worth does
not depend on the other one.

Results:

* `Merges.readable`, `Merges.applied`: a text with the pairs of two texts is read as
  the second over the first.
* `merges_merged`, `merges_join`: the two ways to write such a text.
* `inDomain_of_either`: the parameters of two sets in the domain may be mixed.
* `updates_merge`: what updates come to that follow one another.
-/

namespace RoamTuning

open Text

/-! ## Texts with the pairs of two texts -/

namespace Override

variable {text t u : String} {base p q : IntParams}

theorem key_mem_of_gives {key v : String} (h : Gives t key v) : key ∈ keysOf t :=
  List.mem_map_of_mem (f := (·.1)) h

theorem pieces_join (t u : String) :
    pieces .comma (t ++ "," ++ u).toList = pieces .comma t.toList ++ pieces .comma u.toList := by
  have chars : (t ++ "," ++ u).toList = t.toList ++ ',' :: u.toList := by simp
  rw [chars, Delimiter.comma_eq_single, pieces_single_join]

theorem writtenPairs_join (t u : String) :
    writtenPairs (t ++ "," ++ u) = writtenPairs t ++ writtenPairs u := by
  rw [writtenPairs, pieces_join, List.map_append, writtenPairs, writtenPairs]

theorem accepts_join_iff :
    accepts (t ++ "," ++ u) = true ↔ accepts t = true ∧ accepts u = true := by
  simp only [accepts_iff_forall_isPair, pieces_join, List.forall_mem_append]

/-- The pairs of a text whose keys another text does not have. -/
def pairsBeside (t u : String) : List (String × String) :=
  (writtenPairs t).filter fun e => e.1 ∉ keysOf u

/-- The text of the pairs of one text whose keys another text does not have, followed
    by the pairs of the other. -/
def merged (t u : String) : String :=
  joined "," ((pairsBeside t u ++ writtenPairs u).map assignment)

/-- Whether a text has the pairs of two texts, those of the second where both have a key. -/
structure Merges (text t u : String) : Prop where
  grammar : accepts text = true
  distinct : (keysOf text).Nodup
  gives_iff : ∀ {key v}, Gives text key v ↔ (Gives t key v ∧ key ∉ keysOf u) ∨ Gives u key v

/-- Of texts without a common key either may come first. -/
theorem Merges.symm (m : Merges text t u) (disjoint : (keysOf t).Disjoint (keysOf u)) :
    Merges text u t := by
  refine ⟨m.grammar, m.distinct, fun {key v} => ?_⟩
  rw [m.gives_iff]
  constructor
  · rintro (⟨given, -⟩ | given)
    · exact .inr given
    · exact .inl ⟨given, fun key => disjoint key (key_mem_of_gives given)⟩
  · rintro (⟨given, -⟩ | given)
    · exact .inr given
    · exact .inl ⟨given, disjoint (key_mem_of_gives given)⟩

/-- The merged text of two texts with distinct keys has the pairs of both. -/
theorem merges_merged (ht : accepts t = true) (hu : accepts u = true)
    (distinct : (keysOf t).Nodup) (distinct' : (keysOf u).Nodup) : Merges (merged t u) t u := by
  have nonempty : pairsBeside t u ++ writtenPairs u ≠ [] := by
    simp [writtenPairs, pieces_ne_nil]
  have writable : ∀ e ∈ pairsBeside t u ++ writtenPairs u, Writable e := by
    intro e he
    rcases List.mem_append.1 he with he | he
    · exact writable_of_mem_writtenPairs ht (List.mem_of_mem_filter he)
    · exact writable_of_mem_writtenPairs hu he
  have pairs : writtenPairs (merged t u) = pairsBeside t u ++ writtenPairs u :=
    writtenPairs_joined nonempty (fun e he => (writable e he).key) fun e he => (writable e he).value
  refine ⟨accepts_joined nonempty writable, ?_, fun {key v} => ?_⟩
  · rw [keysOf, pairs, List.map_append, List.nodup_append]
    refine ⟨distinct.sublist (List.filter_sublist.map _), distinct', ?_⟩
    rintro key beside _ later rfl
    obtain ⟨e, he, rfl⟩ := List.mem_map.1 beside
    exact absurd later (of_decide_eq_true (List.mem_filter.1 he).2)
  · rw [Gives, pairs, List.mem_append, pairsBeside, List.mem_filter, decide_eq_true_eq]
    rfl

/-- Texts without a common key have the pairs of both when they are written behind one
    another. -/
theorem merges_join (ht : accepts t = true) (hu : accepts u = true)
    (distinct : (keysOf t).Nodup) (distinct' : (keysOf u).Nodup)
    (disjoint : (keysOf t).Disjoint (keysOf u)) : Merges (t ++ "," ++ u) t u := by
  refine ⟨accepts_join_iff.2 ⟨ht, hu⟩, ?_, fun {key v} => ?_⟩
  · rw [keysOf, writtenPairs_join, List.map_append]
    exact distinct.append distinct' disjoint
  · rw [Gives, writtenPairs_join, List.mem_append]
    constructor
    · rintro (given | given)
      · exact .inl ⟨given, disjoint (key_mem_of_gives given)⟩
      · exact .inr given
    · rintro (⟨given, -⟩ | given)
      · exact .inl given
      · exact .inr given

/-! ## Reading such a text -/

/-- What fits a base in every text fits it in a text whose pairs are among theirs. -/
theorem fits_of_gives_imp {f : ParamSet.Field}
    (given : ∀ {v}, Gives text f.name v → Gives t f.name v ∨ Gives u f.name v)
    (ht : Fits t base f) (hu : Fits u base f) : Fits text base f := by
  cases f with
  | array k =>
    intro v h
    exact (given h).elim (ht v) (hu v)
  | scalar k =>
    intro v h
    exact (given h).elim (ht v) (hu v)
  | constant c => exact trivial
  | beaconBoost6GHz => exact trivial

/-- A text with the pairs of two texts can be read where both can. -/
theorem Merges.readable (m : Merges text t u) (ht : Readable t base) (hu : Readable u base) :
    Readable text base := by
  refine ⟨checkGrammar_eq_ok_iff.2 m.grammar, m.distinct, fun f hf => ?_⟩
  refine fits_of_gives_imp (fun {v} h => ?_) (ht.fits f hf) (hu.fits f hf)
  rcases m.gives_iff.1 h with ⟨given, -⟩ | given
  · exact .inl given
  · exact .inr given

/-- **A text with the pairs of two texts is read as the second text over what the first
    is read as.** -/
theorem Merges.applied (m : Merges text t u) (ht : Applied t base p) (hu : Applied u p q) :
    Applied text base q := by
  have absent : ∀ {key}, key ∉ keysOf u → ∀ v, ¬ Gives u key v :=
    fun h v given => h (key_mem_of_gives given)
  have neither : ∀ {key}, (∀ v, ¬ Gives text key v) →
      (∀ v, ¬ Gives t key v) ∧ ∀ v, ¬ Gives u key v := by
    intro key none
    have later : ∀ v, ¬ Gives u key v := fun v given => none v (m.gives_iff.2 (.inr given))
    refine ⟨fun v given => none v (m.gives_iff.2 (.inl ⟨given, fun mem => ?_⟩)), later⟩
    obtain ⟨⟨_, w⟩, hw, rfl⟩ := List.mem_map.1 mem
    exact later w hw
  refine ⟨?_, ?_, ?_, ?_, hu.platform_kept.trans ht.platform_kept⟩
  · intro k v h
    rcases m.gives_iff.1 h with ⟨given, unnamed⟩ | given
    · rw [hu.array_kept k (absent unnamed)]
      exact ht.array_given k v given
    · exact hu.array_given k v given
  · intro k v h
    rcases m.gives_iff.1 h with ⟨given, unnamed⟩ | given
    · rw [hu.scalar_kept k (absent unnamed)]
      exact ht.scalar_given k v given
    · exact hu.scalar_given k v given
  · intro k none
    rw [hu.array_kept k (neither none).2, ht.array_kept k (neither none).1]
  · intro k none
    rw [hu.scalar_kept k (neither none).2, ht.scalar_kept k (neither none).1]

/-- Where a text is a part of another one, it gives what the whole text gives, and the
    rest it keeps. -/
theorem Applied.array_eq_or {base' : IntParams} (h : Applied t base p) (h' : Applied text base' q)
    (part : ∀ {key v}, Gives t key v → Gives text key v) (k : ArrayKey) :
    p.array k = base.array k ∨ p.array k = q.array k := by
  by_cases given : ∃ v, Gives t k.name v
  · obtain ⟨v, given⟩ := given
    exact .inr ((h.array_given k v given).unique (h'.array_given k v (part given)))
  · exact .inl (h.array_kept k (not_exists.1 given))

theorem Applied.scalar_eq_or {base' : IntParams} (h : Applied t base p) (h' : Applied text base' q)
    (part : ∀ {key v}, Gives t key v → Gives text key v) (k : ScalarKey) :
    p.scalar k = base.scalar k ∨ p.scalar k = q.scalar k := by
  by_cases given : ∃ v, Gives t k.name v
  · obtain ⟨v, given⟩ := given
    have both := (h.scalar_given k v given).symm.trans (h'.scalar_given k v (part given))
    exact .inr (Except.ok.inj both)
  · exact .inl (h.scalar_kept k (not_exists.1 given))

/-- What a text is read as applies it again. -/
theorem Applied.again (h : Applied t base p) : Applied t p p :=
  ⟨h.array_given, h.scalar_given, fun _ _ => rfl, fun _ _ => rfl, rfl⟩

end Override

/-! ## Mixing sets in the domain -/

/-- A set whose parameters each come from one of two sets in the domain is in the domain. -/
theorem ParamSet.inDomain_of_either {p q r : IntParams} (hp : p.InDomain) (hq : q.InDomain)
    (arrays : ∀ k, r.array k = p.array k ∨ r.array k = q.array k)
    (scalars : ∀ k, r.scalar k = p.scalar k ∨ r.scalar k = q.scalar k)
    (platform : r.platform = p.platform) : r.InDomain := by
  rw [← check_eq_ok_iff]
  have array : ∀ k, r.checkArray k = .ok () := by
    intro k
    rcases arrays k with same | same
    · exact (checkArray_congr same).trans (checkArray_of_inDomain hp k)
    · exact (checkArray_congr same).trans (checkArray_of_inDomain hq k)
  have scalar : ∀ k, r.checkScalar k = .ok () := by
    intro k
    rcases scalars k with same | same
    · exact (checkScalar_congr same).trans (checkScalar_of_inDomain hp k)
    · exact (checkScalar_congr same).trans (checkScalar_of_inDomain hq k)
  have minutes : r.checkMinutes = p.checkMinutes := by
    funext c
    rw [checkMinutes, checkMinutes, constant, constant, platform]
  simp only [check, Outcome.then_eq_ok_iff, Outcome.forM_eq_ok_iff, minutes]
  refine ⟨fun k _ => array k, fun k _ => scalar k, ?_⟩
  exact Outcome.forM_eq_ok_iff.1 (checkMinutes_of_inDomain hp)

namespace Store

open Override (Readable Applied Merges merged keysOf accepts)

/-! ## Accepted updates -/

/-- A text is accepted over a base if it can be read there and what it is read as is in
    the domain. -/
theorem candidate_parse_eq_ok_iff {text : String} {base p : IntParams} :
    candidate (Override.parse text) base = .ok p
      ↔ Readable text base ∧ Applied text base p ∧ p.InDomain := by
  constructor
  · intro h
    have parsed := derive_of_candidate h
    exact ⟨Override.readable_of_parse parsed, Override.applied_of_parse parsed,
      inDomain_of_candidate h⟩
  · rintro ⟨readable, applied, valid⟩
    refine Outcome.bind_eq_ok_iff.2 ⟨p, ?_, ?_⟩
    · rw [Override.parse_of_applied readable applied, Outcome.mapError_ok]
    · rw [ParamSet.validated_eq_ok_iff.2 ⟨rfl, valid⟩, Outcome.mapError_ok]

/-- An update of a sound store with a text that is not blank is accepted if a set can be
    derived, and then installs it. -/
theorem update_accepted_iff {s : IntStore} (hs : s.Sound) {text : String}
    (filled : isBlankText text = false) :
    (s.update (some text)).2.outcome = .ok true
      ↔ ∃ p, candidate (Override.parse text) s.active.params = .ok p
        ∧ (s.update (some text)).1 = s.installed p := by
  rcases update_cases_of_filled hs filled with ⟨p, derived, left, answer⟩ | ⟨r, derived, -, answer⟩
  · exact iff_of_true answer ⟨p, derived, left⟩
  · simp [answer, derived]

/-- What one sound store accepts every other one accepts. -/
theorem update_accepted_of_sound {s s' : IntStore} (hs : s.Sound) (hs' : s'.Sound) {text : String}
    (filled : isBlankText text = false) (h : (s.update (some text)).2.outcome = .ok true) :
    (s'.update (some text)).2.outcome = .ok true := by
  obtain ⟨p, derived, -⟩ := (update_accepted_iff hs filled).1 h
  obtain ⟨p', derived'⟩ := (uniform_parse text).accepted hs hs' derived
  rw [update_of_accepted filled derived']

/-! ## Updates in a row -/

section Rows

variable {s : IntStore} {text t u : String}

/-- **Two updates come to what a text comes to that has the pairs of both.** -/
theorem update_of_merges (hs : s.Sound) (m : Merges text t u) (ht : isBlankText t = false)
    (hu : isBlankText u = false) (first : (s.update (some t)).2.outcome = .ok true)
    (second : (s.update (some u)).2.outcome = .ok true) :
    (s.update (some text)).2.outcome = .ok true
      ∧ ((s.update (some t)).1.update (some u)).1.active.params
        = (s.update (some text)).1.active.params := by
  obtain ⟨p, derived, left⟩ := (update_accepted_iff hs ht).1 first
  have sound : (s.update (some t)).1.Sound := sound_write hs (.update (some t))
  obtain ⟨q, derived', left'⟩ :=
    (update_accepted_iff sound hu).1 (update_accepted_of_sound hs sound hu second)
  obtain ⟨r, alone, -⟩ := (update_accepted_iff hs hu).1 second
  rw [left] at derived'
  obtain ⟨readable, applied, -⟩ := candidate_parse_eq_ok_iff.1 derived
  obtain ⟨-, applied', valid⟩ := candidate_parse_eq_ok_iff.1 derived'
  obtain ⟨readable', -, -⟩ := candidate_parse_eq_ok_iff.1 alone
  have both : candidate (Override.parse text) s.active.params = .ok q :=
    candidate_parse_eq_ok_iff.2 ⟨m.readable readable readable', m.applied applied applied', valid⟩
  rw [left', update_of_accepted (Override.isBlankText_of_accepts m.grammar) both]
  exact ⟨rfl, rfl⟩

/-- An accepted text follows the grammar, and its keys are distinct. -/
theorem grammar_of_accepted (hs : s.Sound) (ht : isBlankText t = false)
    (h : (s.update (some t)).2.outcome = .ok true) :
    accepts t = true ∧ (keysOf t).Nodup := by
  obtain ⟨p, derived, -⟩ := (update_accepted_iff hs ht).1 h
  obtain ⟨readable, -, -⟩ := candidate_parse_eq_ok_iff.1 derived
  exact ⟨Override.checkGrammar_eq_ok_iff.1 readable.grammar, readable.distinct⟩

/-- An accepted update changes nothing if it is repeated. -/
theorem update_update_self (hs : s.Sound) (ht : isBlankText t = false)
    (h : (s.update (some t)).2.outcome = .ok true) :
    ((s.update (some t)).1.update (some t)).1.active.params
      = (s.update (some t)).1.active.params := by
  obtain ⟨p, derived, left⟩ := (update_accepted_iff hs ht).1 h
  have sound : (s.update (some t)).1.Sound := sound_write hs (.update (some t))
  obtain ⟨q, derived', left'⟩ :=
    (update_accepted_iff sound ht).1 (update_accepted_of_sound hs sound ht h)
  rw [left] at derived'
  obtain ⟨-, applied, -⟩ := candidate_parse_eq_ok_iff.1 derived
  obtain ⟨-, applied', -⟩ := candidate_parse_eq_ok_iff.1 derived'
  rw [left', left]
  exact applied'.unique applied.again

/-- A text that is accepted together with another one is accepted by itself, if they have
    no common key. -/
theorem update_accepted_of_join (hs : s.Sound) (ht : accepts t = true) (m : Merges text t u)
    (distinct : (keysOf t).Nodup) (disjoint : (keysOf t).Disjoint (keysOf u))
    (h : (s.update (some text)).2.outcome = .ok true) :
    (s.update (some t)).2.outcome = .ok true := by
  obtain ⟨q, derived, -⟩ :=
    (update_accepted_iff hs (Override.isBlankText_of_accepts m.grammar)).1 h
  obtain ⟨readable, applied, valid⟩ := candidate_parse_eq_ok_iff.1 derived
  have among : ∀ {key v}, Override.Gives t key v → Override.Gives text key v := fun given =>
    m.gives_iff.2 (.inl ⟨given, disjoint (Override.key_mem_of_gives given)⟩)
  have part : Readable t s.active.params := by
    refine ⟨Override.checkGrammar_eq_ok_iff.2 ht, distinct, fun f hf => ?_⟩
    have fits := readable.fits f hf
    exact Override.fits_of_gives_imp (fun given => .inl (among given)) fits fits
  have applied' := Override.applied_editOf part
  have inDomain : ((Override.editOf t).apply s.active.params).InDomain :=
    ParamSet.inDomain_of_either hs.inDomain valid (applied'.array_eq_or applied among)
      (applied'.scalar_eq_or applied among) rfl
  rw [update_of_accepted (Override.isBlankText_of_accepts ht)
    (candidate_parse_eq_ok_iff.2 ⟨part, applied', inDomain⟩)]

end Rows

/-- **What updates come to that follow one another**, in a store with a valid set and
    complete arrays. Two texts that are accepted by themselves are accepted one after the
    other, and come to what their merged text comes to; so an accepted update may be
    repeated, and accepted updates without a common key may change places. Texts
    without a common key are accepted behind one another exactly if each of them is
    accepted by itself. -/
theorem updates_merge {s : IntStore} (valid : s.active.params.check = .ok ())
    (shaped : s.active.params.Shaped) :
    (∀ t u, isBlankText t = false → isBlankText u = false →
      (s.update (some t)).2.outcome = .ok true → (s.update (some u)).2.outcome = .ok true →
        ((s.update (some t)).1.update (some u)).2.outcome = .ok true
        ∧ (s.update (some (merged t u))).2.outcome = .ok true
        ∧ ((s.update (some t)).1.update (some u)).1.active.params
          = (s.update (some (merged t u))).1.active.params
        ∧ ((s.update (some t)).1.update (some t)).1.active.params
          = (s.update (some t)).1.active.params
        ∧ ((keysOf t).Disjoint (keysOf u) →
          ((s.update (some t)).1.update (some u)).1.active.params
            = ((s.update (some u)).1.update (some t)).1.active.params))
      ∧ ∀ t u, Override.checkGrammar t = .ok () → Override.checkGrammar u = .ok () →
        (keysOf t).Disjoint (keysOf u) →
          ((s.update (some (t ++ "," ++ u))).2.outcome = .ok true
            ↔ (s.update (some t)).2.outcome = .ok true
              ∧ (s.update (some u)).2.outcome = .ok true) := by
  have hs : s.Sound := ⟨(ParamSet.check_eq_ok_iff _).1 valid, shaped⟩
  constructor
  · intro t u ht hu first second
    obtain ⟨grammar, distinct⟩ := grammar_of_accepted hs ht first
    obtain ⟨grammar', distinct'⟩ := grammar_of_accepted hs hu second
    have sound : (s.update (some t)).1.Sound := sound_write hs (.update (some t))
    obtain ⟨single, same⟩ := update_of_merges hs
      (Override.merges_merged grammar grammar' distinct distinct') ht hu first second
    refine ⟨update_accepted_of_sound hs sound hu second, single, same,
      update_update_self hs ht first, fun disjoint => ?_⟩
    have m := Override.merges_join grammar grammar' distinct distinct' disjoint
    exact (update_of_merges hs m ht hu first second).2.trans
      (update_of_merges hs (m.symm disjoint) hu ht second first).2.symm
  · intro t u ht hu disjoint
    rw [Override.checkGrammar_eq_ok_iff] at ht hu
    constructor
    · intro whole
      have filled := Override.isBlankText_of_accepts (Override.accepts_join_iff.2 ⟨ht, hu⟩)
      obtain ⟨-, distinct⟩ := grammar_of_accepted hs filled whole
      rw [keysOf, Override.writtenPairs_join, List.map_append, List.nodup_append'] at distinct
      have m := Override.merges_join ht hu distinct.1 distinct.2.1 disjoint
      exact ⟨update_accepted_of_join hs ht m distinct.1 disjoint whole,
        update_accepted_of_join hs hu (m.symm disjoint) distinct.2.1 disjoint.symm whole⟩
    · rintro ⟨first, second⟩
      have filled := Override.isBlankText_of_accepts ht
      have filled' := Override.isBlankText_of_accepts hu
      obtain ⟨-, distinct⟩ := grammar_of_accepted hs filled first
      obtain ⟨-, distinct'⟩ := grammar_of_accepted hs filled' second
      have m := Override.merges_join ht hu distinct distinct' disjoint
      exact (update_of_merges hs m filled filled' first second).1

/-- A text that has a say on one of the two keys of another, and two texts of which the
    second is out of range. -/
theorem updates_merge_horizon :
    merged "nud=3,horizon=20" "horizon=30,phase=1" = "nud=3,horizon=30,phase=1"
      ∧ ((unsourced.update (some "nud=3,horizon=20")).1.update
          (some "horizon=30,phase=1")).1.active.params
        = (unsourced.update (some "nud=3,horizon=30,phase=1")).1.active.params
      ∧ (unsourced.update (some "nud=3,horizon=30,phase=1")).1.active.params.tunables.horizon = 30
      ∧ (unsourced.update (some ("nud=3" ++ "," ++ "horizon=99"))).2.outcome ≠ .ok true := by
  have text : merged "nud=3,horizon=20" "horizon=30,phase=1" = "nud=3,horizon=30,phase=1" := by
    decide +kernel
  obtain ⟨rows, joined⟩ := updates_merge (s := unsourced) (by decide +kernel) (by decide +kernel)
  obtain ⟨-, -, same, -, -⟩ := rows "nud=3,horizon=20" "horizon=30,phase=1" (by decide +kernel)
    (by decide +kernel) (by decide +kernel) (by decide +kernel)
  have disjoint : (keysOf "nud=3").Disjoint (keysOf "horizon=99") := by
    have keys : keysOf "nud=3" = ["nud"] ∧ keysOf "horizon=99" = ["horizon"] := by decide +kernel
    rw [keys.1, keys.2]
    simp
  have outside : (unsourced.update (some "horizon=99")).2.outcome ≠ .ok true := by decide +kernel
  refine ⟨text, text ▸ same, by decide +kernel, fun accepted => ?_⟩
  exact outside ((joined "nud=3" "horizon=99" rfl rfl disjoint).1 accepted).2

end Store

end RoamTuning
