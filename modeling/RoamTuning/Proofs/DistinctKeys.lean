import Mathlib.Data.Finset.Card
import Mathlib.Data.List.Induction
import RoamTuning.Table

/-!
# Tables of pairs with distinct keys

A table of pairs has each of their keys once. It has as many keys as there are
pairs exactly when no key is repeated, and then it is a set of pairs: what it
finds is what the pairs say.

Results:

* `keys_ofPairs`: each key once, in the order in which they came.
* `size_ofPairs_eq_length_iff`: counting keys finds every repeated one.
* `get?_ofPairs_eq_some_iff`: a look-up among distinct keys.
* `get?_ofPairs_perm`: their order does not matter.
-/

namespace RoamTuning.Table

variable {κ ν : Type} [DecidableEq κ]

theorem mem_keys_ofPairs {ps : List (κ × ν)} {k : κ} :
    k ∈ (ofPairs ps).keys ↔ k ∈ ps.map (·.1) := by
  rw [← not_iff_not, ← get?_eq_none_iff, get?_ofPairs, Option.map_eq_none_iff,
    List.findRev?_eq_find?_reverse, List.find?_eq_none]
  constructor
  · intro absent hk
    obtain ⟨p, hp, rfl⟩ := List.mem_map.1 hk
    exact absent p (List.mem_reverse.2 hp) (by simp)
  · intro absent p hp found
    rw [decide_eq_true_eq] at found
    exact absent (found ▸ List.mem_map_of_mem (List.mem_reverse.1 hp))

theorem nodup_keys_foldl_put (ps : List (κ × ν)) {t : Table κ ν} (h : t.keys.Nodup) :
    (ps.foldl (fun t p => t.put p.1 p.2) t).keys.Nodup := by
  induction ps generalizing t with
  | nil => exact h
  | cons p r ih => exact ih (nodup_keys_put h p.1 p.2)

theorem nodup_keys_ofPairs (ps : List (κ × ν)) : (ofPairs ps).keys.Nodup :=
  nodup_keys_foldl_put ps List.nodup_nil

/-- The keys of a table of pairs are those of the pairs, each where it came first. -/
theorem keys_ofPairs (ps : List (κ × ν)) : (ofPairs ps).keys = (ps.map (·.1)).eraseDups := by
  induction ps using List.reverseRecOn with
  | nil => rfl
  | append_singleton r p ih =>
    have last : ofPairs (r ++ [p]) = (ofPairs r).put p.1 p.2 := by
      rw [ofPairs, List.foldl_append]
      rfl
    have added : (List.removeAll [p.1] (r.map (·.1))).eraseDups
        = if p.1 ∈ r.map (·.1) then [] else [p.1] := by
      by_cases known : p.1 ∈ r.map (·.1)
      · rw [if_pos known, List.removeAll, List.filter_cons_of_neg (by simpa using known)]
        rfl
      · rw [if_neg known, List.removeAll, List.filter_cons_of_pos (by simpa using known)]
        rfl
    rw [last, keys_put, List.map_append, List.eraseDups_append, ← ih, List.map_singleton, added]
    simp only [mem_keys_ofPairs]
    split <;> simp

theorem size_ofPairs (ps : List (κ × ν)) : (ofPairs ps).size = (ps.map (·.1)).toFinset.card := by
  have same : (ofPairs ps).keys.toFinset = (ps.map (·.1)).toFinset := by
    ext k
    rw [List.mem_toFinset, List.mem_toFinset, mem_keys_ofPairs]
  rw [← same, List.toFinset_card_of_nodup (nodup_keys_ofPairs ps), keys, List.length_map, size]

theorem size_ofPairs_le (ps : List (κ × ν)) : (ofPairs ps).size ≤ ps.length := by
  rw [size_ofPairs, ← List.length_map (f := (·.1))]
  exact List.toFinset_card_le _

/-- **Counting the keys of a table finds every repeated key.** -/
theorem size_ofPairs_eq_length_iff {ps : List (κ × ν)} :
    (ofPairs ps).size = ps.length ↔ (ps.map (·.1)).Nodup := by
  rw [size_ofPairs, ← List.length_map (f := (·.1))]
  exact Multiset.toFinset_card_eq_card_iff_nodup (m := ((ps.map (·.1) : List κ) : Multiset κ))

/-- A look-up finds the value of the last pair with the key. -/
theorem get?_ofPairs_append (before : List (κ × ν)) {k : κ} (v : ν) {after : List (κ × ν)}
    (last : ∀ p ∈ after, p.1 ≠ k) : (ofPairs (before ++ (k, v) :: after)).get? k = some v := by
  have none : after.reverse.find? (fun p => p.1 = k) = Option.none := by
    rw [List.find?_eq_none]
    intro p hp
    simpa using last p (List.mem_reverse.1 hp)
  rw [get?_ofPairs, List.findRev?_eq_find?_reverse, List.reverse_append, List.reverse_cons,
    List.append_assoc, List.find?_append, none]
  simp

theorem getIn_eq_some_iff {es : List (κ × ν)} (distinct : (es.map (·.1)).Nodup) {k : κ} {v : ν} :
    getIn k es = some v ↔ (k, v) ∈ es := by
  induction es with
  | nil => simp [getIn]
  | cons e r ih =>
    simp only [List.map_cons, List.nodup_cons] at distinct
    by_cases h : e.1 = k
    · subst h
      have later : ∀ w, (e.1, w) ∉ r := fun w hw =>
        distinct.1 (List.mem_map_of_mem (f := (·.1)) hw)
      rw [getIn, if_pos rfl, List.mem_cons, Prod.ext_iff]
      simp [later, eq_comm]
    · rw [getIn, if_neg h, ih distinct.2, List.mem_cons, Prod.ext_iff]
      simp [Ne.symm h]

/-- What is found among pairs with distinct keys. -/
theorem get?_ofPairs_eq_some_iff {ps : List (κ × ν)} (distinct : (ps.map (·.1)).Nodup) {k : κ}
    {v : ν} : (ofPairs ps).get? k = some v ↔ (k, v) ∈ ps := by
  rw [get?, entries_ofPairs distinct, getIn_eq_some_iff distinct]

/-- Where keys are distinct, a look-up does not depend on the order of the pairs. -/
theorem get?_ofPairs_perm {ps qs : List (κ × ν)} (distinct : (ps.map (·.1)).Nodup)
    (perm : ps.Perm qs) (k : κ) : (ofPairs ps).get? k = (ofPairs qs).get? k := by
  have others : (qs.map (·.1)).Nodup := (perm.map _).nodup_iff.1 distinct
  ext v
  rw [get?_ofPairs_eq_some_iff distinct, get?_ofPairs_eq_some_iff others, perm.mem_iff]

end RoamTuning.Table
