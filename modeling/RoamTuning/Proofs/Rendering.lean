import RoamTuning.Proofs.Meaning
import RoamTuning.Proofs.Numerals

/-!
# Rendered sets

The text that a set is rendered as follows the grammar if none of its arrays is
empty. In any case it gives every tunable parameter what the set has there, so it
tells the sets with other tunable parameters apart. Rendering writes integers of any
size, and reading takes those of 32 bits.

Results:

* `writtenPairs_joined`: pairs are found as they were written one after the other.
* `renderArray_injective`: no two arrays are written alike.
* `spells_renderArray_iff`: what a rendered array spells.
* `accepts_render_iff`: which sets are rendered by the grammar.
* `render_lossless`: which sets are rendered alike.
* `readable_render_iff`: over which bases a rendered set can be read.
* `parse_render`: there its tunable parameters are read back.
-/

namespace RoamTuning.Override

open Text
open Numeral (IsWord)
open ParamSet (Field)

/-! ## Pairs that are written -/

/-- Whether a text is a key. -/
def isKey : List Char → Bool
  | [] => false
  | first :: rest => startsKey first && rest.all continuesKey

theorem isKey_array (k : ArrayKey) : isKey k.name.toList = true := by
  cases k <;> decide

theorem isKey_scalar (k : ScalarKey) : isKey k.name.toList = true := by
  cases k <;> decide

theorem exists_of_isKey {cs : List Char} (h : isKey cs = true) :
    ∃ first rest, cs = first :: rest ∧ startsKey first = true
      ∧ ∀ c ∈ rest, continuesKey c = true := by
  cases cs with
  | nil => cases h
  | cons first rest =>
    rw [isKey, Bool.and_eq_true, List.all_eq_true] at h
    exact ⟨first, rest, rfl, h⟩

theorem continuesKey_of_isKey {cs : List Char} (h : isKey cs = true) {c : Char} (hc : c ∈ cs) :
    continuesKey c = true := by
  obtain ⟨first, rest, rfl, starts, continues⟩ := exists_of_isKey h
  rcases List.mem_cons.1 hc with rfl | hc
  · simp [continuesKey, starts]
  · exact continues c hc

/-- The pairs that the grammar allows. -/
structure Writable (e : String × String) : Prop where
  key : isKey e.1.toList = true
  value_ne_nil : e.2.toList ≠ []
  value : ∀ c ∈ e.2.toList, inValue c = true

/-- A pair as it is written. -/
def assignment (e : String × String) : String := e.1 ++ "=" ++ e.2

theorem toList_assignment (e : String × String) :
    (assignment e).toList = e.1.toList ++ '=' :: e.2.toList := by
  simp [assignment]

theorem Writable.isPair {e : String × String} (h : Writable e) : IsPair (assignment e).toList := by
  obtain ⟨first, rest, chars, starts, continues⟩ := exists_of_isKey h.key
  refine ⟨first, rest, e.2.toList, ?_, starts, continues, h.value_ne_nil, h.value⟩
  rw [toList_assignment, chars]

/-- What is written behind a key is read back, even if it is nothing. -/
theorem writtenPair_assignment {e : String × String} (key : isKey e.1.toList = true) :
    writtenPair (assignment e).toList = e := by
  have sign : '=' ∉ e.1.toList :=
    not_mem_of_forall (by decide) fun c hc => continuesKey_of_isKey key hc
  rw [toList_assignment, writtenPair_append sign, String.ofList_toList, String.ofList_toList]

theorem comma_not_mem_assignment {e : String × String} (key : isKey e.1.toList = true)
    (value : ∀ c ∈ e.2.toList, inValue c = true) : ',' ∉ (assignment e).toList := by
  rw [toList_assignment, List.mem_append, List.mem_cons]
  rintro (inKey | sign | inside)
  · exact not_mem_of_forall (by decide) (fun c hc => continuesKey_of_isKey key hc) inKey
  · exact absurd sign (by decide)
  · exact not_mem_of_forall (by decide) value inside

/-- The pair that a piece writes. -/
theorem writable_of_isPair {piece : List Char} (h : IsPair piece) :
    Writable (writtenPair piece) ∧ (assignment (writtenPair piece)).toList = piece := by
  obtain ⟨first, rest, value, rfl, starts, continues, nonempty, values⟩ := h
  have key : isKey (first :: rest) = true := by
    rw [isKey, Bool.and_eq_true, List.all_eq_true]
    exact ⟨starts, continues⟩
  have sign : '=' ∉ first :: rest :=
    not_mem_of_forall (by decide) fun c hc => continuesKey_of_isKey key hc
  rw [writtenPair_append sign, toList_assignment]
  simp only [String.toList_ofList, and_true]
  exact ⟨by simpa using key, by simpa using nonempty, by simpa using values⟩

theorem writable_of_mem_writtenPairs {text : String} (grammar : accepts text = true)
    {e : String × String} (h : e ∈ writtenPairs text) : Writable e := by
  obtain ⟨piece, hp, rfl⟩ := List.mem_map.1 h
  exact (writable_of_isPair (accepts_iff_forall_isPair.1 grammar piece hp)).1

theorem pieces_assignments {es : List (String × String)} (nonempty : es ≠ [])
    (h : ∀ e ∈ es, ',' ∉ (assignment e).toList) :
    pieces .comma (joined "," (es.map assignment)).toList
      = es.map fun e => (assignment e).toList := by
  have commas : ∀ s ∈ es.map assignment, ',' ∉ s.toList := by
    intro s hs
    obtain ⟨e, he, rfl⟩ := List.mem_map.1 hs
    exact h e he
  rw [Delimiter.comma_eq_single, pieces_joined rfl (by simpa using nonempty) commas, List.map_map]
  rfl

theorem Writable.comma_not_mem {e : String × String} (h : Writable e) :
    ',' ∉ (assignment e).toList := comma_not_mem_assignment h.key h.value

theorem accepts_joined {es : List (String × String)} (nonempty : es ≠ [])
    (h : ∀ e ∈ es, Writable e) : accepts (joined "," (es.map assignment)) = true := by
  rw [accepts_iff_forall_isPair, pieces_assignments nonempty fun e he => (h e he).comma_not_mem]
  intro piece hp
  obtain ⟨e, he, rfl⟩ := List.mem_map.1 hp
  exact (h e he).isPair

/-- Pairs are found as they were written one after the other, also those whose value is
    nothing. -/
theorem writtenPairs_joined {es : List (String × String)} (nonempty : es ≠ [])
    (keys : ∀ e ∈ es, isKey e.1.toList = true)
    (values : ∀ e ∈ es, ∀ c ∈ e.2.toList, inValue c = true) :
    writtenPairs (joined "," (es.map assignment)) = es := by
  have commas : ∀ e ∈ es, ',' ∉ (assignment e).toList := fun e he =>
    comma_not_mem_assignment (keys e he) (values e he)
  rw [writtenPairs, pieces_assignments nonempty commas, List.map_map]
  exact (List.map_congr_left fun e he => writtenPair_assignment (keys e he)).trans (List.map_id es)

/-! ## Values that are written -/

theorem toList_text (n : Int) : (Numeral.text n).toList = Numeral.chars n := by
  rw [Numeral.text, String.toList_ofList]

theorem inValue_of_mem_text {n : Int} {c : Char} (h : c ∈ (Numeral.text n).toList) :
    inValue c = true := by
  rw [toList_text] at h
  rcases Numeral.mem_chars h with rfl | digit
  · decide
  · have isDigit : c.isDigit = true := by
      rw [Char.isDigit_iff_toNat]
      simpa [isAsciiDigit] using digit
    simp [inValue, isDigit]

theorem colon_not_mem_text (n : Int) : ':' ∉ (Numeral.text n).toList := by
  intro h
  rw [toList_text] at h
  rcases Numeral.mem_chars h with e | digit
  · exact absurd e (by decide)
  · exact absurd digit (by decide)

theorem inValue_of_mem_renderArray {ns : List Int} {c : Char}
    (h : c ∈ (renderArray ns).toList) : inValue c = true := by
  rw [renderArray_int] at h
  rcases mem_joined h with colon | ⟨s, hs, inside⟩
  · rw [List.mem_singleton.1 colon]
    decide
  · obtain ⟨n, -, rfl⟩ := List.mem_map.1 hs
    exact inValue_of_mem_text inside

theorem pieces_renderArray {ns : List Int} (nonempty : ns ≠ []) :
    pieces .colon (renderArray ns).toList = ns.map fun n => (Numeral.text n).toList := by
  have colons : ∀ s ∈ ns.map Numeral.text, ':' ∉ s.toList := by
    intro s hs
    obtain ⟨n, -, rfl⟩ := List.mem_map.1 hs
    exact colon_not_mem_text n
  rw [renderArray_int, Delimiter.colon_eq_single,
    pieces_joined rfl (by simpa using nonempty) colons,
    List.map_map]
  rfl

theorem renderArray_ne_nil {ns : List Int} (nonempty : ns ≠ []) : (renderArray ns).toList ≠ [] := by
  intro empty
  have pieces := pieces_renderArray nonempty
  rw [empty] at pieces
  obtain ⟨n, r, rfl⟩ := List.exists_cons_of_ne_nil nonempty
  have first : [] = (Numeral.text n).toList := (List.cons.inj pieces).1
  rw [toList_text] at first
  exact Numeral.chars_ne_nil n first.symm

/-- The integers that a text lists between colons, of any size and in any number. -/
def listed (v : String) : List Int :=
  if v.toList = [] then [] else (pieces .colon v.toList).map Numeral.plainValue

theorem listed_renderArray (ns : List Int) : listed (renderArray ns) = ns := by
  by_cases empty : ns = []
  · subst empty
    rfl
  · have item : ∀ n, Numeral.plainValue (Numeral.text n).toList = n := by
      intro n
      rw [toList_text, Numeral.plainValue_chars]
    rw [listed, if_neg (renderArray_ne_nil empty), pieces_renderArray empty, List.map_map]
    exact (List.map_congr_left fun n _ => item n).trans (List.map_id ns)

/-- No two arrays are written alike, whatever their lengths and integers. -/
theorem renderArray_injective : Function.Injective (renderArray : List Int → String) :=
  Function.LeftInverse.injective listed_renderArray

/-- A rendered array spells itself, if all its integers have 32 bits. -/
theorem spells_renderArray_iff {ns ms : List Int} (nonempty : ns ≠ []) :
    Spells (renderArray ns) ms ↔ ms = ns ∧ ∀ n ∈ ns, IsWord n := by
  have item : ∀ n m : Int, Numeral.readWord (String.ofList (Numeral.text n).toList) = .ok m
      ↔ IsWord n ∧ n = m := by
    intro n m
    rw [String.ofList_toList, Numeral.readWord_text_eq_ok_iff, and_comm, eq_comm]
  rw [Spells, pieces_renderArray nonempty, List.forall₂_map_left_iff]
  simp only [item]
  rw [List.forall₂_and_left, List.forall₂_eq_eq_eq, and_comm, eq_comm]

/-! ## The text of a set -/

variable {p base : IntParams}

theorem renderedPairs_ne_nil (p : IntParams) : renderedPairs p ≠ [] := by
  simp [renderedPairs, ArrayKey.all]

theorem isKey_of_mem_renderedPairs {e : String × String} (h : e ∈ renderedPairs p) :
    isKey e.1.toList = true := by
  rcases List.mem_append.1 h with h | h
  · obtain ⟨k, -, rfl⟩ := List.mem_map.1 h
    exact isKey_array k
  · obtain ⟨k, -, rfl⟩ := List.mem_map.1 h
    exact isKey_scalar k

theorem inValue_of_mem_renderedPairs {e : String × String} (h : e ∈ renderedPairs p) :
    ∀ c ∈ e.2.toList, inValue c = true := by
  intro c hc
  rcases List.mem_append.1 h with h | h
  · obtain ⟨k, -, rfl⟩ := List.mem_map.1 h
    exact inValue_of_mem_renderArray hc
  · obtain ⟨k, -, rfl⟩ := List.mem_map.1 h
    exact inValue_of_mem_text hc

theorem writable_of_mem_renderedPairs (nonempty : ∀ k, p.array k ≠ []) {e : String × String}
    (h : e ∈ renderedPairs p) : Writable e := by
  refine ⟨isKey_of_mem_renderedPairs h, ?_, inValue_of_mem_renderedPairs h⟩
  rcases List.mem_append.1 h with h | h
  · obtain ⟨k, -, rfl⟩ := List.mem_map.1 h
    exact renderArray_ne_nil (nonempty k)
  · obtain ⟨k, -, rfl⟩ := List.mem_map.1 h
    show (Numeral.text (p.scalar k)).toList ≠ []
    rw [toList_text]
    exact Numeral.chars_ne_nil _

theorem accepts_render (nonempty : ∀ k, p.array k ≠ []) : accepts (render p) = true :=
  accepts_joined (renderedPairs_ne_nil p) fun _ he => writable_of_mem_renderedPairs nonempty he

theorem writtenPairs_render (p : IntParams) : writtenPairs (render p) = renderedPairs p :=
  writtenPairs_joined (renderedPairs_ne_nil p) (fun _ he => isKey_of_mem_renderedPairs he)
    fun _ he => inValue_of_mem_renderedPairs he

theorem nodup_keysOf_render (p : IntParams) : (keysOf (render p)).Nodup := by
  have names : (renderedPairs p).map (·.1) = Field.tunable.map Field.name := rfl
  rw [keysOf, writtenPairs_render, names]
  decide

theorem gives_array_render_iff {k : ArrayKey} {v : String} :
    Gives (render p) k.name v ↔ v = renderArray (p.array k) := by
  rw [Gives, writtenPairs_render]
  cases k <;> simp [renderedPairs, ArrayKey.all, ScalarKey.all, ArrayKey.name, ScalarKey.name]

theorem gives_scalar_render_iff {k : ScalarKey} {v : String} :
    Gives (render p) k.name v ↔ v = Numeral.text (p.scalar k) := by
  rw [Gives, writtenPairs_render]
  cases k <;> simp [renderedPairs, ArrayKey.all, ScalarKey.all, ArrayKey.name, ScalarKey.name]

/-- The text of a set follows the grammar exactly if none of its arrays is empty. -/
theorem accepts_render_iff : accepts (render p) = true ↔ ∀ k, p.array k ≠ [] := by
  refine ⟨fun h k empty => ?_, accepts_render⟩
  have given : Gives (render p) k.name (renderArray (p.array k)) := gives_array_render_iff.2 rfl
  -- the array is written as nothing at all, which is no value
  have value := (writable_of_mem_writtenPairs h given).value_ne_nil
  rw [empty] at value
  exact value rfl

/-! ## Sets that are rendered alike -/

variable {q : IntParams}

theorem array_eq_of_render_eq (same : render p = render q) (k : ArrayKey) :
    p.array k = q.array k := by
  have given : Gives (render p) k.name (renderArray (p.array k)) := gives_array_render_iff.2 rfl
  rw [same, gives_array_render_iff] at given
  exact renderArray_injective given

theorem scalar_eq_of_render_eq (same : render p = render q) (k : ScalarKey) :
    p.scalar k = q.scalar k := by
  have given : Gives (render p) k.name (Numeral.text (p.scalar k)) :=
    gives_scalar_render_iff.2 rfl
  rw [same, gives_scalar_render_iff] at given
  exact Numeral.text_injective given

/-- Nothing but the tunable parameters is rendered. -/
theorem render_congr (same : p.tunables = q.tunables) : render p = render q := by
  obtain ⟨t, platform⟩ := p
  obtain ⟨u, platform'⟩ := q
  obtain rfl : t = u := same
  rfl

theorem render_eq_render_iff : render p = render q ↔ p.tunables = q.tunables := by
  constructor
  · intro same
    exact Tunables.ext_array_scalar (array_eq_of_render_eq same) (scalar_eq_of_render_eq same)
  · exact render_congr

theorem tunableMembers_eq_iff : p.tunableMembers = q.tunableMembers ↔ p.tunables = q.tunables := by
  constructor
  · intro same
    have get : ∀ f ∈ Field.tunable, p.get f = q.get f := by
      intro f hf
      exact (Prod.mk.inj (List.map_inj_left.1 same f hf)).2
    refine Tunables.ext_array_scalar (fun k => ?_) fun k => ?_
    · have value := get (.array k) (by cases k <;> decide)
      have items : (p.array k).map Value.int = (q.array k).map Value.int := Value.tuple.inj value
      exact List.map_injective_iff.2 (fun _ _ => Value.int.inj) items
    · exact Value.int.inj (get (.scalar k) (by cases k <;> decide))
  · intro same
    obtain ⟨t, platform⟩ := p
    obtain ⟨u, platform'⟩ := q
    obtain rfl : t = u := same
    rfl

/-- **Rendering loses nothing.** Two sets have one text exactly if all their tunable
    parameters are the same, of whatever lengths their arrays and of whatever size their
    integers are, also where the text could not be read back. -/
theorem render_lossless (p q : IntParams) :
    (render p = render q ↔ p.tunables = q.tunables)
      ∧ (render p = render q ↔ p.tunableMembers = q.tunableMembers) := by
  have alike : render p = render q ↔ p.tunables = q.tunables := render_eq_render_iff
  exact ⟨alike, alike.trans tunableMembers_eq_iff.symm⟩

/-! ## Reading it back -/

theorem fits_array_render_iff (nonempty : ∀ k, p.array k ≠ []) {k : ArrayKey} :
    Fits (render p) base (.array k)
      ↔ (p.array k).length = (base.array k).length ∧ ∀ n ∈ p.array k, IsWord n := by
  simp only [Fits, gives_array_render_iff, forall_eq, spells_renderArray_iff (nonempty k)]
  constructor
  · rintro ⟨ns, ⟨rfl, words⟩, length⟩
    exact ⟨length, words⟩
  · rintro ⟨length, words⟩
    exact ⟨_, ⟨rfl, words⟩, length⟩

theorem fits_scalar_render_iff {k : ScalarKey} :
    Fits (render p) base (.scalar k) ↔ IsWord (p.scalar k) := by
  simp only [Fits, gives_scalar_render_iff, forall_eq, Numeral.readWord_text_eq_ok_iff]
  constructor
  · rintro ⟨n, -, word⟩
    exact word
  · intro word
    exact ⟨_, rfl, word⟩

/-- A rendered set can be read over the bases whose arrays are as long as its
    own, if all its integers have 32 bits. -/
theorem readable_render_iff (nonempty : ∀ k, p.array k ≠ []) :
    Readable (render p) base
      ↔ (∀ k, (p.array k).length = (base.array k).length ∧ ∀ n ∈ p.array k, IsWord n)
        ∧ ∀ k, IsWord (p.scalar k) := by
  constructor
  · intro h
    exact ⟨fun k => (fits_array_render_iff nonempty).1 (h.fits (.array k) (by cases k <;> decide)),
      fun k => fits_scalar_render_iff.1 (h.fits (.scalar k) (by cases k <;> decide))⟩
  · rintro ⟨arrays, scalars⟩
    refine ⟨checkGrammar_eq_ok_iff.2 (accepts_render nonempty), nodup_keysOf_render p, ?_⟩
    intro f hf
    cases f with
    | array k => exact (fits_array_render_iff nonempty).2 (arrays k)
    | scalar k => exact fits_scalar_render_iff.2 (scalars k)
    | constant c => exact trivial
    | beaconBoost6GHz => exact trivial

theorem applied_render (nonempty : ∀ k, p.array k ≠ []) (h : Readable (render p) base) :
    Applied (render p) base ⟨p.tunables, base.platform⟩ := by
  obtain ⟨arrays, scalars⟩ := (readable_render_iff nonempty).1 h
  refine ⟨?_, ?_, ?_, ?_, rfl⟩
  · intro k v given
    rw [gives_array_render_iff.1 given]
    exact (spells_renderArray_iff (nonempty k)).2 ⟨rfl, (arrays k).2⟩
  · intro k v given
    rw [gives_scalar_render_iff.1 given]
    exact Numeral.readWord_text_eq_ok_iff.2 ⟨rfl, scalars k⟩
  · intro k none
    exact absurd (gives_array_render_iff.2 rfl) (none _)
  · intro k none
    exact absurd (gives_scalar_render_iff.2 rfl) (none _)

/-- **Where a rendered set can be read, its tunable parameters are read back.** -/
theorem parse_render (nonempty : ∀ k, p.array k ≠ []) (h : Readable (render p) base) :
    parse (render p) base = .ok ⟨p.tunables, base.platform⟩ :=
  parse_of_applied h (applied_render nonempty h)

end RoamTuning.Override
