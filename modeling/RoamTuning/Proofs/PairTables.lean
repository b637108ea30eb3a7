import RoamTuning.Proofs.DistinctKeys
import RoamTuning.Proofs.Divisions
import RoamTuning.Proofs.Rendering

/-!
# Tables that are read from texts

What a reader of pairs has in its table after a text, said by the division of the text: a
piece with an equals sign gives a pair, both parts of it trimmed, and any other piece
gives nothing. Trimming can make two keys one; then the first piece decides where the key
stands and the last one which value it has, and the table has fewer keys than the text has
pieces. Pairs that lose nothing by being written one after the other are read back.

Results:

* `filterMap_pairOf?`: the pairs of the pieces of a text.
* `tabulates_ofPairs`: the table of these pairs, said by the pieces.
* `size_eq_length_iff`: when there are as many keys as pieces.
* `pairTable_joined`: pairs that are read back.
* `read_tabulates`: all of this about readers.
-/

namespace RoamTuning.Override

open Text

/-! ## Pieces with an equals sign -/

/-- The key that a piece gives: what stands before its first equals sign, trimmed. -/
def keyIn (piece : List Char) : String := trim (writtenPair piece).1

/-- The value that a piece gives: what stands after its first equals sign, trimmed. -/
def valueIn (piece : List Char) : String := trim (writtenPair piece).2

/-- The keys that pieces give, in order. -/
def keysIn (ps : List (List Char)) : List String := (ps.filter fun p => '=' ∈ p).map keyIn

theorem pairOf?_eq (piece : List Char) :
    pairOf? piece = if '=' ∈ piece then some (keyIn piece, valueIn piece) else none := by
  cases cut : cutAt '=' piece with
  | none => rw [pairOf?, cut, if_neg (cutAt_eq_none_iff.1 cut), Option.map_none]
  | some p =>
    obtain ⟨u, v⟩ := p
    obtain ⟨key, rfl⟩ := cutAt_eq_some_iff.1 cut
    rw [pairOf?, cut, if_pos (by simp), keyIn, valueIn, writtenPair_append key, trim, trim,
      String.toList_ofList, String.toList_ofList]
    rfl

/-- The pairs of pieces are what the pieces with an equals sign give. -/
theorem filterMap_pairOf? (ps : List (List Char)) :
    ps.filterMap pairOf? = (ps.filter fun p => '=' ∈ p).map fun p => (keyIn p, valueIn p) := by
  induction ps with
  | nil => rfl
  | cons p r ih =>
    by_cases sign : '=' ∈ p
    · rw [List.filterMap_cons_some (by rw [pairOf?_eq, if_pos sign]), ih,
        List.filter_cons_of_pos (by simpa using sign), List.map_cons]
    · rw [List.filterMap_cons_none (by rw [pairOf?_eq, if_neg sign]), ih,
        List.filter_cons_of_neg (by simpa using sign)]

theorem map_fst_filterMap_pairOf? (ps : List (List Char)) :
    (ps.filterMap pairOf?).map (·.1) = keysIn ps := by
  rw [filterMap_pairOf?, List.map_map]
  rfl

theorem keysIn_of_signs {ps : List (List Char)} (signs : ∀ p ∈ ps, '=' ∈ p) :
    keysIn ps = ps.map keyIn := by
  rw [keysIn, List.filter_eq_self.2 fun p hp => by simpa using signs p hp]

/-! ## The table of pieces -/

/-- What a table has to hold for pieces: each of their keys once, in the order in which
    they come first, with the value of the last piece that gives the key. -/
structure Tabulates (ps : List (List Char)) (t : PairTable) : Prop where
  keys : t.keys = (keysIn ps).eraseDups
  value : ∀ k ∈ t.keys, ∃ before p after, ps = before ++ p :: after ∧ '=' ∈ p ∧ keyIn p = k
    ∧ (∀ q ∈ after, '=' ∈ q → keyIn q ≠ k) ∧ t.get? k = some (valueIn p)

/-- A key that pieces give has a last piece that gives it. -/
theorem exists_last_piece {ps : List (List Char)} {k : String} (h : k ∈ keysIn ps) :
    ∃ before p after, ps = before ++ p :: after ∧ '=' ∈ p ∧ keyIn p = k
      ∧ ∀ q ∈ after, '=' ∈ q → keyIn q ≠ k := by
  induction ps with
  | nil => cases h
  | cons p r ih =>
    by_cases later : k ∈ keysIn r
    · obtain ⟨before, q, after, rfl, rest⟩ := ih later
      exact ⟨p :: before, q, after, rfl, rest⟩
    · have others : ∀ q ∈ r, '=' ∈ q → keyIn q ≠ k := by
        rintro q hq sign rfl
        exact later (List.mem_map_of_mem (List.mem_filter.2 ⟨hq, by simpa using sign⟩))
      obtain ⟨q, hq, rfl⟩ := List.mem_map.1 h
      obtain ⟨mem, sign⟩ := List.mem_filter.1 hq
      rw [decide_eq_true_eq] at sign
      rcases List.mem_cons.1 mem with rfl | mem
      · exact ⟨[], q, r, rfl, sign, rfl, others⟩
      · exact absurd rfl (others q mem sign)

theorem tabulates_ofPairs (ps : List (List Char)) :
    Tabulates ps (Table.ofPairs (ps.filterMap pairOf?)) := by
  refine ⟨by rw [Table.keys_ofPairs, map_fst_filterMap_pairOf?], fun k hk => ?_⟩
  rw [Table.mem_keys_ofPairs, map_fst_filterMap_pairOf?] at hk
  obtain ⟨before, p, after, rfl, sign, key, last⟩ := exists_last_piece hk
  refine ⟨before, p, after, rfl, sign, key, last, ?_⟩
  have given : pairOf? p = some (k, valueIn p) := by rw [pairOf?_eq, if_pos sign, key]
  rw [List.filterMap_append, List.filterMap_cons_some given]
  refine Table.get?_ofPairs_append _ _ fun e he => ?_
  obtain ⟨q, hq, pair⟩ := List.mem_filterMap.1 he
  rw [pairOf?_eq] at pair
  split at pair
  · rename_i sign
    obtain rfl := Option.some.inj pair
    exact last q hq sign
  · cases pair

/-- There are as many keys as pieces if all pieces give pairs and no key is repeated. -/
theorem size_eq_length_iff {ps : List (List Char)} :
    (Table.ofPairs (ps.filterMap pairOf?)).size = ps.length
      ↔ (∀ p ∈ ps, '=' ∈ p) ∧ (ps.map keyIn).Nodup := by
  have pairs : (ps.filterMap pairOf?).length = (ps.filter fun p => '=' ∈ p).length := by
    rw [filterMap_pairOf?, List.length_map]
  have all : (ps.filter fun p => '=' ∈ p).length = ps.length ↔ ∀ p ∈ ps, '=' ∈ p := by
    simp [List.length_filter_eq_length_iff]
  have few := Table.size_ofPairs_le (ps.filterMap pairOf?)
  have fewer : (ps.filter fun p => '=' ∈ p).length ≤ ps.length := List.length_filter_le _ _
  constructor
  · intro full
    have signs : ∀ p ∈ ps, '=' ∈ p := all.1 (by omega)
    have distinct := Table.size_ofPairs_eq_length_iff.1 (full.trans (by rw [pairs, all.2 signs]))
    rw [map_fst_filterMap_pairOf?, keysIn_of_signs signs] at distinct
    exact ⟨signs, distinct⟩
  · rintro ⟨signs, distinct⟩
    rw [← keysIn_of_signs signs, ← map_fst_filterMap_pairOf?] at distinct
    rw [Table.size_ofPairs_eq_length_iff.2 distinct, pairs, all.2 signs]

/-! ## Pairs that are read back -/

/-- Whether a text neither begins nor ends with a blank. -/
def Unpadded (s : String) : Prop :=
  (∀ c ∈ s.toList.head?, isBlank c = false) ∧ ∀ c ∈ s.toList.getLast?, isBlank c = false

/-- Whether nothing of a pair is lost if it stands between delimiters. -/
structure Separable (delimiter : Char) (e : String × String) : Prop where
  key : delimiter ∉ e.1.toList
  value : delimiter ∉ e.2.toList
  sign : '=' ∉ e.1.toList
  key_unpadded : Unpadded e.1
  value_unpadded : Unpadded e.2

/-- A text without blanks is not padded. -/
theorem unpadded_of_all {s : String} (h : s.toList.all (!isBlank ·) = true) : Unpadded s := by
  simp only [List.all_eq_true, Bool.not_eq_true'] at h
  exact ⟨fun c hc => h c (List.mem_of_mem_head? hc), fun c hc => h c (List.mem_of_mem_getLast? hc)⟩

theorem trim_of_unpadded {s : String} (h : Unpadded s) : trim s = s := by
  rw [trim, trimBy_eq_self h.1 h.2, String.ofList_toList]

section Separable

variable {a : Char} {e : String × String}

theorem Separable.pairOf?_eq (h : Separable a e) : pairOf? (assignment e).toList = some e := by
  have written : writtenPair (assignment e).toList = e := by
    rw [toList_assignment, writtenPair_append h.sign, String.ofList_toList, String.ofList_toList]
  have sign : '=' ∈ (assignment e).toList := by simp [toList_assignment]
  rw [Override.pairOf?_eq, if_pos sign, keyIn, valueIn, written, trim_of_unpadded h.key_unpadded,
    trim_of_unpadded h.value_unpadded]

theorem Separable.not_mem_assignment (h : Separable a e) (other : a ≠ '=') :
    a ∉ (assignment e).toList := by
  rw [toList_assignment, List.mem_append, List.mem_cons]
  rintro (inKey | rfl | inValue)
  · exact h.key inKey
  · exact other rfl
  · exact h.value inValue

end Separable

/-- Separable pairs with distinct keys are read back as they were written. -/
theorem pairTable_joined {a : Char} (other : a ≠ '=') {es : List (String × String)}
    (distinct : (es.map (·.1)).Nodup) (separable : ∀ e ∈ es, Separable a e) :
    pairTable (.single a) (joined (String.singleton a) (es.map assignment)) = ⟨es⟩ := by
  cases es with
  | nil => rfl
  | cons e r =>
    have apart : ∀ s ∈ (e :: r).map assignment, a ∉ s.toList := by
      intro s hs
      obtain ⟨d, hd, rfl⟩ := List.mem_map.1 hs
      exact (separable d hd).not_mem_assignment other
    have pairs : pairsOf (.single a) (joined (String.singleton a) ((e :: r).map assignment))
        = e :: r := by
      rw [pairsOf, pieces_joined (by simp) (by simp) apart, List.map_map, List.filterMap_map]
      refine (List.filterMap_congr fun d hd => ?_).trans List.filterMap_some
      exact (separable d hd).pairOf?_eq
    rw [pairTable, pairs]
    exact congrArg Table.mk (Table.entries_ofPairs distinct)

/-! ## Readers -/

/-- A reader whose delimiter is a text that is not empty. -/
theorem exists_read_eq {delimiter : String} (filled : delimiter ≠ "") :
    ∃ d : Delimiter, d.chars = delimiter.toList ∧ ∀ (old : PairTable) (text : String),
      PairReader.read ⟨.text delimiter, old⟩ text
        = (⟨.text delimiter, pairTable d text⟩, .ok ()) := by
  obtain ⟨c, r, chars⟩ : ∃ c r, delimiter.toList = c :: r :=
    List.exists_cons_of_ne_nil fun nil => filled (String.toList_eq_nil_iff.1 nil)
  have spelled : Delimiter.ofText? delimiter = some ⟨c, r⟩ := by rw [Delimiter.ofText?, chars]
  refine ⟨⟨c, r⟩, chars.symm, fun old text => ?_⟩
  rw [PairReader.read, readPairs_text spelled]

/-- **What a reader of pairs has in its table.** Whatever the table held before, it is
    replaced by the keys and values of the pieces between the delimiters, which are as
    many only if each piece gives a pair and no key is repeated. Distinct pairs that a
    delimiter of one character keeps apart are read back as they were written. -/
theorem read_tabulates :
    (∀ (delimiter text : String) (old : PairTable), delimiter ≠ "" →
      ∃ t ps, PairReader.read ⟨.text delimiter, old⟩ text = (⟨.text delimiter, t⟩, .ok ())
        ∧ Divides delimiter.toList text.toList ps ∧ Tabulates ps t
        ∧ (t.size = ps.length
          ↔ text ≠ "" ∧ (∀ p ∈ ps, '=' ∈ p) ∧ (ps.map keyIn).Nodup))
      ∧ ∀ (a : Char) (es : List (String × String)) (old : PairTable), a ≠ '=' →
        (es.map (·.1)).Nodup → (∀ e ∈ es, Separable a e) →
        PairReader.read ⟨.text (String.singleton a), old⟩
            (joined (String.singleton a) (es.map assignment))
          = (⟨.text (String.singleton a), ⟨es⟩⟩, .ok ()) := by
  refine ⟨fun delimiter text old filled => ?_, fun a es old other distinct separable => ?_⟩
  · obtain ⟨d, chars, read⟩ := exists_read_eq filled
    refine ⟨pairTable d text, pieces d text.toList, read old text, ?_, ?_, ?_⟩
    · rw [← chars]
      exact divides_pieces d text.toList
    · exact tabulates_ofPairs _
    · rw [pairTable, pairsOf, size_eq_length_iff]
      refine ⟨fun h => ⟨?_, h⟩, And.right⟩
      rintro rfl
      exact absurd (h.1 [] (by simp [pieces, piecesFrom])) (by simp)
  · have spelled : Delimiter.ofText? (String.singleton a) = some (.single a) := by
      simp [Delimiter.ofText?, Delimiter.single]
    rw [PairReader.read, readPairs_text spelled, pairTable_joined other distinct separable]

/-- Two keys that trimming makes one, behind a delimiter of two characters, and pairs one
    of which has no value and the other an equals sign in it. -/
theorem read_tabulates_merged :
    (∃ ps, PairReader.read ⟨.text ";;", .empty⟩ " a =1;;a=2;;b"
          = (⟨.text ";;", ⟨[("a", "2")]⟩⟩, .ok ())
        ∧ Divides ";;".toList " a =1;;a=2;;b".toList ps ∧ Tabulates ps ⟨[("a", "2")]⟩)
      ∧ PairReader.read ⟨.text " ", ⟨[("old", "1")]⟩⟩ "k= j=1=2"
        = (⟨.text " ", ⟨[("k", ""), ("j", "1=2")]⟩⟩, .ok ()) := by
  obtain ⟨tabulates, readBack⟩ := read_tabulates
  obtain ⟨t, ps, read, divides, table, -⟩ := tabulates ";;" " a =1;;a=2;;b" .empty (by decide)
  have value : PairReader.read ⟨.text ";;", .empty⟩ " a =1;;a=2;;b"
      = (⟨.text ";;", ⟨[("a", "2")]⟩⟩, .ok ()) := rfl
  obtain rfl : t = ⟨[("a", "2")]⟩ :=
    (congrArg (fun answer => answer.1.table) (read.symm.trans value) :)
  have separable : ∀ e ∈ [("k", ""), ("j", "1=2")], Separable ' ' e :=
    List.forall_mem_cons.2
      ⟨⟨by decide, by decide, by decide, unpadded_of_all rfl, unpadded_of_all rfl⟩,
      List.forall_mem_singleton.2
        ⟨by decide, by decide, by decide, unpadded_of_all rfl, unpadded_of_all rfl⟩⟩
  exact ⟨⟨ps, value, divides, table⟩,
    readBack ' ' [("k", ""), ("j", "1=2")] ⟨[("old", "1")]⟩ (by decide) (by decide) separable⟩

end RoamTuning.Override
