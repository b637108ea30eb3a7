import RoamTuning.Text.CaseTable

/-!
# Upper and lower case

The full case mappings: a character may become several, and a capital sigma
becomes the final small sigma at the end of a word. Inside ASCII the mappings
are the familiar ones.

Results:

* `upper_ascii`, `lower_ascii`: the mappings of the ASCII characters.
* `isUpper_iff_toNat`, `isLower_iff_toNat`: the letters of ASCII by their code points.
-/

namespace RoamTuning.Text

/-- Where the runs take a code point, if one of them holds it. -/
def mapByRuns (runs : List CaseRun) (n : Nat) : Option Nat :=
  (runs.find? fun r => r.first ≤ n && n ≤ r.last && (n - r.first) % r.step == 0).map
    fun r => (Int.ofNat n + r.shift).toNat

/-- The characters that a character becomes under runs and expansions. -/
def mapCase (runs : List CaseRun) (expansions : List (Nat × List Nat)) (c : Char) : List Char :=
  match expansions.find? fun e => e.1 == c.toNat with
  | some e => e.2.map Char.ofNat
  | none => [((mapByRuns runs c.toNat).map Char.ofNat).getD c]

/-- The upper case of a character. -/
def upperChar (c : Char) : List Char :=
  if c.toNat ≤ 0x7F then [c.toUpper] else mapCase upperRuns upperExpansions c

/-- The lower case of a character that does not depend on its neighbours. -/
def lowerChar (c : Char) : List Char :=
  if c.toNat ≤ 0x7F then [c.toLower] else mapCase lowerRuns lowerExpansions c

/-- The upper case of a text. -/
def upper (s : String) : String :=
  String.ofList (s.toList.flatMap upperChar)

/-- Whether the nearest character that is not passed over has a case. -/
def casedNeighbour (cs : List Char) : Bool :=
  match cs.find? fun c => !caseIgnorableRanges.contains c.toNat with
  | some c => casedRanges.contains c.toNat
  | none => false

/-- The lower case of the characters `cs` that follow the characters `before`,
    which are given from the last to the first. -/
def lowerFrom (before : List Char) : List Char → List Char
  | [] => []
  | c :: r =>
    let image :=
      if c == 'Σ' then [if casedNeighbour before && !casedNeighbour r then 'ς' else 'σ']
      else lowerChar c
    image ++ lowerFrom (c :: before) r

/-- The lower case of a text. -/
def lower (s : String) : String :=
  String.ofList (lowerFrom [] s.toList)

theorem upper_ascii {cs : List Char} (h : ∀ c ∈ cs, c.toNat ≤ 0x7F) :
    upper (String.ofList cs) = String.ofList (cs.map Char.toUpper) := by
  have : cs.flatMap upperChar = cs.map Char.toUpper := by
    induction cs with
    | nil => rfl
    | cons c r ih =>
      have hc : c.toNat ≤ 0x7F := h c (by simp)
      simp [List.flatMap_cons, upperChar, hc, ih fun d hd => h d (by simp [hd])]
  simp [upper, this]

theorem lowerFrom_ascii {before cs : List Char} (h : ∀ c ∈ cs, c.toNat ≤ 0x7F) :
    lowerFrom before cs = cs.map Char.toLower := by
  induction cs generalizing before with
  | nil => rfl
  | cons c r ih =>
    have hc : c.toNat ≤ 0x7F := h c (by simp)
    have sigma : (c == 'Σ') = false := by
      simp only [beq_eq_false_iff_ne, ne_eq]
      rintro rfl
      exact absurd hc (by decide)
    simp [lowerFrom, sigma, lowerChar, hc, ih fun d hd => h d (by simp [hd])]

theorem lower_ascii {cs : List Char} (h : ∀ c ∈ cs, c.toNat ≤ 0x7F) :
    lower (String.ofList cs) = String.ofList (cs.map Char.toLower) := by
  simp [lower, lowerFrom_ascii h]

/-! ## Letters of ASCII -/

theorem isUpper_iff_toNat {c : Char} : c.isUpper = true ↔ 0x41 ≤ c.toNat ∧ c.toNat ≤ 0x5A :=
  decide_eq_true_iff

theorem isLower_iff_toNat {c : Char} : c.isLower = true ↔ 0x61 ≤ c.toNat ∧ c.toNat ≤ 0x7A :=
  (Bool.and_eq_true _ _).to_iff.trans (and_congr decide_eq_true_iff decide_eq_true_iff)

theorem toLower_of_not_isUpper {c : Char} (h : c.isUpper = false) : c.toLower = c :=
  dif_neg fun within => by simp [isUpper_iff_toNat.2 within] at h

end RoamTuning.Text
