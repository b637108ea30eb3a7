/-!
# Tables with a first place and a last value

A table maps keys to values and remembers the order in which the keys came. A
key that is put again keeps its first place and takes the new value.

Results:

* `get?_put`, `get?_put_self`: what a look-up finds after `put`.
* `get?_eq_none_iff`: exactly the keys have values.
* `keys_put`: a new key comes last, a known one stays where it is.
* `get?_ofPairs`: a look-up finds the last pair with the key.
* `entries_ofPairs`: pairs with distinct keys are kept as they are.
-/

namespace RoamTuning

/-- Pairs of a key and a value, in the order in which the keys came. -/
structure Table (κ : Type) (ν : Type) where
  entries : List (κ × ν)
deriving Repr

namespace Table

variable {κ ν : Type} [DecidableEq κ]

/-- The table without entries. -/
def empty : Table κ ν := ⟨[]⟩

/-- Replaces the value of a key in a list of pairs, or adds the pair at the end. -/
def putIn (k : κ) (v : ν) : List (κ × ν) → List (κ × ν)
  | [] => [(k, v)]
  | e :: r => if e.1 = k then (k, v) :: r else e :: putIn k v r

/-- The value of a key in a list of pairs with distinct keys. -/
def getIn (k : κ) : List (κ × ν) → Option ν
  | [] => none
  | e :: r => if e.1 = k then some e.2 else getIn k r

/-- Gives a key a value. -/
def put (t : Table κ ν) (k : κ) (v : ν) : Table κ ν := ⟨putIn k v t.entries⟩

/-- The value of a key. -/
def get? (t : Table κ ν) (k : κ) : Option ν := getIn k t.entries

/-- The keys in the order in which they came. -/
def keys (t : Table κ ν) : List κ := t.entries.map (·.1)

/-- The number of keys. -/
def size (t : Table κ ν) : Nat := t.entries.length

/-- Whether a key has a value. -/
def contains (t : Table κ ν) (k : κ) : Bool := (t.get? k).isSome

/-- The table of pairs put one after the other. -/
def ofPairs (ps : List (κ × ν)) : Table κ ν :=
  ps.foldl (fun t p => t.put p.1 p.2) empty

/-! ## Looking up -/

theorem getIn_putIn (k j : κ) (v : ν) (es : List (κ × ν)) :
    getIn j (putIn k v es) = if j = k then some v else getIn j es := by
  induction es with
  | nil =>
    by_cases h : j = k
    · simp [putIn, getIn, h]
    · simp [putIn, getIn, h, Ne.symm h]
  | cons e r ih =>
    by_cases he : e.1 = k
    · by_cases h : j = k
      · simp [putIn, getIn, he, h]
      · simp [putIn, getIn, he, h, Ne.symm h]
    · by_cases hj : e.1 = j
      · have : j ≠ k := fun e' => he (hj.trans e')
        simp [putIn, getIn, hj, this]
      · simp [putIn, getIn, he, hj, ih]

@[simp] theorem get?_empty (k : κ) : (empty : Table κ ν).get? k = none := rfl

theorem get?_put (t : Table κ ν) (k j : κ) (v : ν) :
    (t.put k v).get? j = if j = k then some v else t.get? j :=
  getIn_putIn k j v t.entries

@[simp] theorem get?_put_self (t : Table κ ν) (k : κ) (v : ν) :
    (t.put k v).get? k = some v := by
  simp [get?_put]

theorem get?_foldl_put (ps : List (κ × ν)) (t : Table κ ν) (k : κ) :
    (ps.foldl (fun t p => t.put p.1 p.2) t).get? k
      = ((ps.findRev? fun p => p.1 = k).map (·.2)).or (t.get? k) := by
  induction ps generalizing t with
  | nil => simp [List.findRev?]
  | cons p r ih =>
    rw [List.foldl_cons, ih, get?_put]
    simp only [List.findRev?]
    cases h : List.findRev? (fun p => decide (p.1 = k)) r with
    | some q => simp
    | none =>
      by_cases hp : p.1 = k
      · simp [hp]
      · simp [hp, Ne.symm hp]

/-- A look-up finds the last pair with the key. -/
theorem get?_ofPairs (ps : List (κ × ν)) (k : κ) :
    (ofPairs ps).get? k = (ps.findRev? fun p => p.1 = k).map (·.2) := by
  simp [ofPairs, get?_foldl_put]

/-! ## Keys -/

theorem getIn_eq_none_iff {k : κ} {es : List (κ × ν)} :
    getIn k es = none ↔ k ∉ es.map (·.1) := by
  induction es with
  | nil => simp [getIn]
  | cons e r ih =>
    by_cases h : e.1 = k
    · simp [getIn, h]
    · simp [getIn, h, Ne.symm h, ih]

/-- Exactly the keys have values. -/
theorem get?_eq_none_iff {t : Table κ ν} {k : κ} : t.get? k = none ↔ k ∉ t.keys :=
  getIn_eq_none_iff

theorem keys_putIn (k : κ) (v : ν) (es : List (κ × ν)) :
    (putIn k v es).map (·.1)
      = if k ∈ es.map (·.1) then es.map (·.1) else es.map (·.1) ++ [k] := by
  induction es with
  | nil => simp [putIn]
  | cons e r ih =>
    by_cases h : e.1 = k
    · simp [putIn, h]
    · simp only [putIn, h, if_false, List.map_cons, ih, List.mem_cons, Ne.symm h, false_or]
      split <;> simp

theorem keys_put (t : Table κ ν) (k : κ) (v : ν) :
    (t.put k v).keys = if k ∈ t.keys then t.keys else t.keys ++ [k] :=
  keys_putIn k v t.entries

theorem nodup_keys_put {t : Table κ ν} (h : t.keys.Nodup) (k : κ) (v : ν) :
    (t.put k v).keys.Nodup := by
  rw [keys_put]
  split
  · exact h
  · rename_i hk
    refine List.nodup_append.2 ⟨h, by simp, ?_⟩
    intro a ha b hb
    rw [List.mem_singleton] at hb
    exact fun e => hk ((e.trans hb) ▸ ha)

theorem putIn_of_not_mem {k : κ} {es : List (κ × ν)} (v : ν) (h : k ∉ es.map (·.1)) :
    putIn k v es = es ++ [(k, v)] := by
  induction es with
  | nil => rfl
  | cons e r ih =>
    simp only [List.map_cons, List.mem_cons, not_or] at h
    simp [putIn, Ne.symm h.1, ih h.2]

theorem entries_foldl_put {ps : List (κ × ν)} {t : Table κ ν}
    (h : ((t.entries ++ ps).map (·.1)).Nodup) :
    (ps.foldl (fun t p => t.put p.1 p.2) t).entries = t.entries ++ ps := by
  induction ps generalizing t with
  | nil => simp
  | cons p r ih =>
    have new : p.1 ∉ t.entries.map (·.1) := by
      simp only [List.map_append, List.map_cons, List.nodup_append] at h
      exact fun hp => h.2.2 p.1 hp p.1 (by simp) rfl
    have put : (t.put p.1 p.2).entries = t.entries ++ [p] := putIn_of_not_mem p.2 new
    rw [List.foldl_cons, ih (by simpa [put] using h), put, List.append_assoc]
    rfl

/-- Pairs with distinct keys are kept as they are. -/
theorem entries_ofPairs {ps : List (κ × ν)} (h : (ps.map (·.1)).Nodup) :
    (ofPairs ps).entries = ps := by
  rw [ofPairs, entries_foldl_put (by simpa [empty] using h)]
  rfl

theorem getIn_map {ι : Type} {name : ι → κ} {value : ι → ν} {xs : List ι} {x : ι}
    (distinct : (xs.map name).Nodup) (h : x ∈ xs) :
    getIn (name x) (xs.map fun y => (name y, value y)) = some (value x) := by
  induction xs with
  | nil => cases h
  | cons y r ih =>
    simp only [List.map_cons, List.nodup_cons] at distinct
    by_cases hy : name y = name x
    · cases h with
      | head => simp [getIn]
      | tail _ h => exact absurd (hy ▸ List.mem_map_of_mem h) distinct.1
    · cases h with
      | head => exact absurd rfl hy
      | tail _ h => simpa [getIn, hy] using ih distinct.2 h

end Table

end RoamTuning
