import RoamTuning.Proofs.Meaning

/-!
# Pairs in another order

A text that passes the grammar check says the same in every order of its pairs. If a key
is repeated, every order repeats it. If not, a table of the pairs answers every look-up
alike, and parameters are read from the table in an order of their own, so that of several
values that cannot be used the same one is blamed.

Results:

* `tunablesOver_congr`: all that is read of a table is what it finds.
* `blames_of_tunablesOver`: whom a refusal of parameters blames.
* `parse_alike`: texts with the same pieces.
* `parse_joined_perm`: a text whose pairs are put in another order.
-/

namespace RoamTuning.Override

open Text

variable {α ρ : Type} [Quantity α] [Row ρ α] {base : ParamSet α ρ}

/-! ## What tables are read for -/

omit [Quantity α] in
theorem arrayOver_congr {t u : PairTable} (h : ∀ key, t.get? key = u.get? key) (k : ArrayKey) :
    arrayOver t base k = arrayOver u base k := by
  rw [arrayOver, arrayOver, h]

omit [Row ρ α] in
theorem scalarOver_congr {t u : PairTable} (h : ∀ key, t.get? key = u.get? key) (k : ScalarKey) :
    scalarOver t base k = scalarOver u base k := by
  rw [scalarOver, scalarOver, h]

/-- Tables that find the same give the same parameters or are refused alike. -/
theorem tunablesOver_congr {t u : PairTable} (h : ∀ key, t.get? key = u.get? key) :
    tunablesOver t base = tunablesOver u base := by
  simp only [tunablesOver, arrayOver_congr h, scalarOver_congr h]

/-- An error that is about the value of a key, or about an array of the base that has no
    length. -/
inductive Blames (base : ParamSet α ρ) : Error → Prop
  | value (key value : String) (reason : Reason) : Blames base (.badValue key value reason)
  | base {k : ArrayKey} {m : Value.Misfit} (h : Row.size (base.array k) = .error m) :
    Blames base (.unfit m)

omit [Quantity α] in
theorem blames_of_arrayOver {t : PairTable} {k : ArrayKey} {e : Error}
    (h : arrayOver t base k = .error e) : Blames base e := by
  unfold arrayOver at h
  rcases Outcome.bind_eq_error_iff.1 h with unfit | ⟨size, -, h⟩
  · cases s : Row.size (base.array k) with
    | error m =>
      rw [s] at unfit
      exact Except.error.inj unfit ▸ .base s
    | ok size =>
      rw [s] at unfit
      cases unfit
  · cases found : t.get? k.name with
    | none =>
      rw [found] at h
      cases h
    | some v =>
      rw [found] at h
      simp only at h
      split at h
      · exact Except.error.inj h ▸ .value k.name v _
      · split at h
        · cases h
        · exact Except.error.inj h ▸ .value k.name v _

omit [Row ρ α] in
theorem scalarOver_eq_error {t : PairTable} {k : ScalarKey} {e : Error}
    (h : scalarOver t base k = .error e) : ∃ v, e = .badValue k.name v .notAnInteger := by
  unfold scalarOver at h
  cases found : t.get? k.name with
  | none =>
    rw [found] at h
    cases h
  | some v =>
    rw [found] at h
    simp only at h
    split at h
    · exact ⟨v, (Except.error.inj h).symm⟩
    · cases h

theorem blames_of_scalarOver {t : PairTable} {k : ScalarKey} {e : Error}
    (h : scalarOver t base k = .error e) : Blames base e := by
  obtain ⟨v, rfl⟩ := scalarOver_eq_error h
  exact .value k.name v .notAnInteger

/-- Whatever stops the reading of a table, it is a value or the base. -/
theorem blames_of_tunablesOver {t : PairTable} {e : Error} (h : tunablesOver t base = .error e) :
    Blames base e := by
  unfold tunablesOver at h
  iterate 4 refine Outcome.of_bind_eq_error (fun _ => blames_of_arrayOver) (fun _ _ h => ?_) h
  iterate 3 refine Outcome.of_bind_eq_error (fun _ => blames_of_scalarOver) (fun _ _ h => ?_) h
  cases h

/-! ## Texts with the same pieces -/

section Pieces

variable {text other : String}
  (perm : (pieces .comma text.toList).Perm (pieces .comma other.toList))
include perm

theorem writtenPairs_perm : (writtenPairs text).Perm (writtenPairs other) := perm.map writtenPair

theorem nodup_keysOf_iff_of_perm : (keysOf text).Nodup ↔ (keysOf other).Nodup :=
  ((writtenPairs_perm perm).map _).nodup_iff

theorem accepts_of_perm (h : accepts text = true) : accepts other = true := by
  rw [accepts_iff_forall_isPair] at h ⊢
  exact fun piece mem => h piece (perm.mem_iff.2 mem)

theorem get?_pairTable_of_perm (h : accepts text = true) (distinct : (keysOf text).Nodup)
    (key : String) : (pairTable .comma text).get? key = (pairTable .comma other).get? key := by
  rw [pairTable, pairTable, pairsOf_of_accepts h, pairsOf_of_accepts (accepts_of_perm perm h)]
  exact Table.get?_ofPairs_perm distinct (writtenPairs_perm perm) key

end Pieces

/-- How the outcomes of parsing two texts go together: the same values, the same error
    about a value or the base, or each text is said to repeat a key. -/
inductive Alike (base : ParamSet α ρ) (text other : String) :
    Except Error (ParamSet α ρ) → Except Error (ParamSet α ρ) → Prop
  | parsed (p : ParamSet α ρ) : Alike base text other (.ok p) (.ok p)
  | refused {e : Error} (h : Blames base e) : Alike base text other (.error e) (.error e)
  | repeated : Alike base text other (.error (.repeatedKey text)) (.error (.repeatedKey other))

/-- **Texts with the same pieces are parsed alike**, whatever their order. -/
theorem parse_alike {text other : String} (h : accepts text = true)
    (perm : (pieces .comma text.toList).Perm (pieces .comma other.toList)) (base : ParamSet α ρ) :
    Alike base text other (parse text base) (parse other base) := by
  have passes : accepts other = true := accepts_of_perm perm h
  by_cases distinct : (keysOf text).Nodup
  · have same : tunablesOver (pairTable .comma text) base
        = tunablesOver (pairTable .comma other) base :=
      tunablesOver_congr (get?_pairTable_of_perm perm h distinct)
    rw [parse_of_nodup h distinct,
      parse_of_nodup passes ((nodup_keysOf_iff_of_perm perm).1 distinct), same]
    cases read : tunablesOver (pairTable .comma other) base with
    | ok t => exact .parsed { base with tunables := t }
    | error e => exact .refused (blames_of_tunablesOver read)
  · rw [parse_of_not_nodup h distinct,
      parse_of_not_nodup passes (mt (nodup_keysOf_iff_of_perm perm).2 distinct)]
    exact .repeated

/-- **The order of pairs does not matter.** A text that passes the grammar check and a text
    of its pieces in any order are parsed alike over every base. -/
theorem parse_joined_perm {text : String} (passes : checkGrammar text = .ok ()) (ps : List String)
    (perm : (pieces .comma text.toList).Perm (ps.map String.toList)) (base : ParamSet α ρ) :
    Alike base text (joined "," ps) (parse text base) (parse (joined "," ps) base) := by
  have nonempty : ps ≠ [] := by
    rintro rfl
    exact pieces_ne_nil .comma text.toList perm.eq_nil
  have free : ∀ p ∈ ps, ',' ∉ p.toList := fun p mem =>
    not_mem_of_mem_pieces (perm.mem_iff.2 (List.mem_map_of_mem mem))
  have divided : pieces .comma (joined "," ps).toList = ps.map String.toList := by
    rw [Delimiter.comma_eq_single]
    exact pieces_joined rfl nonempty free
  exact parse_alike (checkGrammar_eq_ok_iff.1 passes) (divided ▸ perm) base

/-- Of two values that cannot be used the array's is blamed, wherever it stands. -/
theorem parse_joined_perm_blamed :
    checkGrammar "nud=-,rssi2=1:2,horizon=5" = .ok ()
      ∧ (pieces .comma "nud=-,rssi2=1:2,horizon=5".toList).Perm
        (["horizon=5", "nud=-", "rssi2=1:2"].map String.toList)
      ∧ Alike ParamSet.builtIn "nud=-,rssi2=1:2,horizon=5" "horizon=5,nud=-,rssi2=1:2"
        (parse "nud=-,rssi2=1:2,horizon=5" ParamSet.builtIn)
        (parse "horizon=5,nud=-,rssi2=1:2" ParamSet.builtIn) :=
  ⟨by decide +kernel, by decide +kernel,
    parse_joined_perm (by decide +kernel) ["horizon=5", "nud=-", "rssi2=1:2"] (by decide +kernel)
      ParamSet.builtIn⟩

end RoamTuning.Override
