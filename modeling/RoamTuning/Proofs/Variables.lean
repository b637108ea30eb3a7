import RoamTuning.Proofs.Overlay
import RoamTuning.Proofs.Spellings

/-!
# The same defaults from a table and from variables

Integers and a truth value may be assigned to the names of the defaults, some or all of
them. A table holds them as values and an environment as texts, each of them spelled in
one of many ways; a variable that is absent or empty assigns nothing. Either source then
answers what was assigned, so the same is loaded from both, with the same log.

Results:

* `loadBand_congr`, `loadSet_congr`: what is loaded depends on the answers to the names only.
* `Assignment.agree`: a table and an environment that hold one assignment answer alike.
* `loads_agree`: the same is loaded from both, and logged.
* `loads_apart`: not so if a blank that is no space stands before an integer.
-/

namespace RoamTuning

/-! ## The names of the defaults -/

/-- The names under which an integer is asked for. -/
def integerNames : List String :=
  Band.all.flatMap Band.thresholdNames ++ [activeRateResource, highRateResource]
    ++ Constant.all.map Constant.resource

theorem mem_integerNames_of_rssiResource? {b : Band} {index : Nat} {name : String}
    (h : rssiResource? b index = some name) : name ∈ integerNames := by
  obtain ⟨tier, found, rfl⟩ := Option.map_eq_some_iff.1 h
  have tiers : tier ∈ ["bad", "entry", "low", "good"] := by
    unfold tierResource? at found
    split at found
    · exact Option.some.inj found ▸ by decide
    · exact Option.some.inj found ▸ by decide
    · exact Option.some.inj found ▸ by decide
    · exact Option.some.inj found ▸ by decide
    · cases found
  refine List.mem_append_left _ (List.mem_append_left _ (List.mem_flatMap.2 ⟨b, ?_, ?_⟩))
  · cases b <;> decide
  · exact List.mem_map.2 ⟨tier, tiers, rfl⟩

/-! ## Sources that answer alike -/

/-- Whether two sources answer alike under the names of the defaults. -/
structure Source.Agree (s t : Source) : Prop where
  integer : ∀ name ∈ integerNames, s.integer name = t.integer name
  truth : s.truth beaconBoostResource = t.truth beaconBoostResource

section Agree

variable {s t : Source} {α ρ : Type} [Quantity α] [Row ρ α]

theorem readInteger_congr (agree : s.Agree t) {name : String} (named : name ∈ integerNames)
    (default : α) : readInteger s name default = readInteger t name default := by
  rw [readInteger, agree.integer name named, readInteger]

theorem loadThresholds_congr (agree : s.Agree t) (b : Band) (index : Nat) (defaults : List α) :
    loadThresholds s b index defaults = loadThresholds t b index defaults := by
  induction defaults generalizing index with
  | nil => rfl
  | cons default r ih =>
    simp only [loadThresholds, ih]
    cases found : rssiResource? b index with
    | none => rfl
    | some name =>
      simp only [readInteger_congr agree (mem_integerNames_of_rssiResource? found)]

/-- The thresholds that are loaded depend on the answers under the names only. -/
theorem loadBand_congr (agree : s.Agree t) (b : Band) (base : ParamSet α ρ) :
    loadBand (some s) b base = loadBand (some t) b base := by
  simp only [loadBand, loadThresholds_congr agree]

theorem loadConstants_congr (agree : s.Agree t) (cs : List Constant) :
    loadConstants s cs = loadConstants t cs := by
  induction cs with
  | nil => rfl
  | cons c r ih =>
    have named : c.resource ∈ integerNames :=
      List.mem_append_right _ (List.mem_map_of_mem (by cases c <;> decide))
    simp only [loadConstants, ih, readInteger_congr agree named]

/-- So does the set that is loaded. -/
theorem loadSet_congr (agree : s.Agree t) : loadSet (some s) = loadSet (some t) := by
  have active : activeRateResource ∈ integerNames := by decide
  have high : highRateResource ∈ integerNames := by decide
  have truth : ∀ default, readTruth s beaconBoostResource default
      = readTruth t beaconBoostResource default := fun default => by
    rw [readTruth, agree.truth, readTruth]
  simp only [loadSet, loadOverlay, loadBand_congr agree, loadConstants_congr agree, truth,
    readInteger_congr agree active, readInteger_congr agree high]

end Agree

/-! ## Assignments -/

/-- Integers for some of the names, and a truth value or none for the flag. -/
structure Assignment where
  integer : String → Option Int
  flag : Option Bool

namespace Assignment

variable (a : Assignment)

/-- Whether a table holds an assignment. -/
structure HeldBy (values : Table String Value) : Prop where
  integer : ∀ name ∈ integerNames, values.get? name = (a.integer name).map .int
  flag : values.get? beaconBoostResource = a.flag.map .bool

/-- Whether a variable has a text that spells a value, or is absent or empty if there is
    no value. -/
def Holds {β : Type} (spells : β → String → Prop) (env : Environment) (key : String) :
    Option β → Prop
  | some v => ∃ text, env.get? key = some text ∧ spells v text
  | none => env.filled? key = none

/-- Whether the variables of an environment spell an assignment. -/
structure WrittenIn (env : Environment) (stem : String) : Prop where
  integer : ∀ name ∈ integerNames,
    Holds Numeral.Spells env (Source.variableName stem name) (a.integer name)
  flag : Holds SpellsTruth env (Source.variableName stem beaconBoostResource) a.flag

variable {a} {values : Table String Value} {env : Environment} {stem : String}

theorem integer_of_heldBy (held : a.HeldBy values) {name : String} (named : name ∈ integerNames) :
    (Source.ofValues values).integer name
      = (a.integer name).elim (.absent name) fun n => .value (.int n) := by
  simp only [Source.ofValues, held.integer name named]
  cases a.integer name <;> rfl

theorem truth_of_heldBy (held : a.HeldBy values) :
    (Source.ofValues values).truth beaconBoostResource
      = a.flag.elim (.absent beaconBoostResource) fun b => .value (.bool b) := by
  simp only [Source.ofValues, held.flag]
  cases a.flag <;> rfl

/-- A variable with a text that spells something counts, and no other one does. -/
theorem lookup?_of_holds {β : Type} {spells : β → String → Prop} {name : String} {v : Option β}
    (h : Holds spells env (Source.variableName stem name) v)
    (filled : ∀ v text, spells v text → text ≠ "") :
    (v = none ∧ Source.lookup? env stem name = none)
      ∨ ∃ w text, v = some w ∧ Source.lookup? env stem name = some text ∧ spells w text := by
  cases v with
  | none => exact .inl ⟨rfl, h⟩
  | some w =>
    obtain ⟨text, held, spelled⟩ := h
    refine .inr ⟨w, text, rfl, ?_, spelled⟩
    simp [Source.lookup?, Environment.filled?, held, filled w text spelled]

theorem integer_of_writtenIn (written : a.WrittenIn env stem) {name : String}
    (named : name ∈ integerNames) :
    (Source.ofEnvironment env stem).integer name
      = (a.integer name).elim (.absent name) fun n => .value (.int n) := by
  rcases lookup?_of_holds (written.integer name named) fun _ _ => Numeral.ne_empty_of_spells with
    ⟨unassigned, absent⟩ | ⟨n, text, assigned, found, spelled⟩
  · simp only [Source.ofEnvironment, absent, unassigned, Option.elim_none]
  · simp only [Source.ofEnvironment, found, assigned, Option.elim_some,
      Numeral.readAny_of_spells spelled]

theorem truth_of_writtenIn (written : a.WrittenIn env stem) :
    (Source.ofEnvironment env stem).truth beaconBoostResource
      = a.flag.elim (.absent beaconBoostResource) fun b => .value (.bool b) := by
  rcases lookup?_of_holds written.flag fun _ _ => ne_empty_of_spellsTruth with
    ⟨unassigned, absent⟩ | ⟨b, text, assigned, found, spelled⟩
  · simp only [Source.ofEnvironment, absent, unassigned, Option.elim_none]
  · have known := switchWord_of_spells spelled
    have apart : ∀ w ∈ offWords, w ∉ onWords := by decide
    simp only [Source.ofEnvironment, found, assigned, Option.elim_some]
    cases b with
    | true =>
      have on : onWords.contains (switchWord text) = true := List.contains_iff_mem.2 known
      rw [if_pos on]
    | false =>
      have off : offWords.contains (switchWord text) = true := List.contains_iff_mem.2 known
      rw [if_neg (by simpa using apart _ known), if_pos off]

/-- A table and an environment that hold one assignment answer alike. -/
theorem agree (held : a.HeldBy values) (written : a.WrittenIn env stem) :
    (Source.ofValues values).Agree (.ofEnvironment env stem) where
  integer _ named := (integer_of_heldBy held named).trans (integer_of_writtenIn written named).symm
  truth := (truth_of_heldBy held).trans (truth_of_writtenIn written).symm

end Assignment

/-- **The same is loaded from a table and from the variables of an environment** that hold
    one assignment, both the set and the thresholds of each band over any base, and the
    same is logged. -/
theorem loads_agree {a : Assignment} {values : Table String Value} {env : Environment}
    {stem : String} (held : a.HeldBy values) (written : a.WrittenIn env stem) :
    loadSet (some (.ofValues values)) = loadSet (some (.ofEnvironment env stem))
      ∧ ∀ {α ρ : Type} [Quantity α] [Row ρ α] (b : Band) (base : ParamSet α ρ),
        loadBand (some (.ofValues values)) b base
          = loadBand (some (.ofEnvironment env stem)) b base :=
  ⟨loadSet_congr (a.agree held written), fun b base => loadBand_congr (a.agree held written) b base⟩

/-- An assignment of two integers and the flag. -/
def partly : Assignment where
  integer name :=
    if name = "saved_network_bonus" then some 650
    else if name = "score_bad_rssi_threshold_24ghz" then some (-85)
    else none
  flag := some false

def partlyValues : Table String Value := Table.ofPairs [
  ("saved_network_bonus", .int 650), ("score_bad_rssi_threshold_24ghz", .int (-85)),
  ("enable_6ghz_beacon_rssi_boost", .bool false)]

/-- The same in variables, one of which is empty and assigns nothing. -/
def partlyVariables : Environment := Table.ofPairs [
  ("SCORE_DEFAULT_SAVED_NETWORK_BONUS", " +00650\n"),
  ("SCORE_DEFAULT_SCORE_BAD_RSSI_THRESHOLD_24GHZ", "-085"),
  ("SCORE_DEFAULT_ENABLE_6GHZ_BEACON_RSSI_BOOST", "\x1cOfF "),
  ("SCORE_DEFAULT_SECURE_NETWORK_BONUS", "")]

theorem loads_agree_partly :
    partly.HeldBy partlyValues ∧ partly.WrittenIn partlyVariables Source.defaultStem
      ∧ loadSet (some (.ofValues partlyValues))
        = loadSet (some (.ofEnvironment partlyVariables Source.defaultStem)) := by
  have held : partly.HeldBy partlyValues := ⟨by decide +kernel, by decide +kernel⟩
  have bonus : Numeral.Spells 650 " +00650\n" :=
    ⟨⟨[' '], true, 2, ['\n'], List.all_eq_true.1 rfl, by decide⟩, by decide⟩
  have bad : Numeral.Spells (-85) "-085" := ⟨⟨[], false, 1, [], nofun, by decide⟩, by decide⟩
  have off : SpellsTruth false "\x1cOfF " :=
    ⟨⟨['\x1c'], ['O', 'f', 'F'], [' '], List.all_eq_true.1 rfl, by decide⟩, by decide⟩
  have others : ∀ name ∈ integerNames, partly.integer name = none →
      partlyVariables.filled? (Source.variableName Source.defaultStem name) = none := by
    decide +kernel
  have written : partly.WrittenIn partlyVariables Source.defaultStem := by
    refine ⟨fun name named => ?_, ⟨_, by decide +kernel, off⟩⟩
    by_cases first : name = "saved_network_bonus"
    · subst first
      exact ⟨_, by decide +kernel, bonus⟩
    · by_cases second : name = "score_bad_rssi_threshold_24ghz"
      · subst second
        exact ⟨_, by decide +kernel, bad⟩
      · have unassigned : partly.integer name = none := by simp [partly, first, second]
        rw [unassigned]
        exact others name named unassigned
  exact ⟨held, written, (loads_agree held written).1⟩

/-- An assignment of one integer. -/
def single : Assignment where
  integer name := if name = "saved_network_bonus" then some 5 else none
  flag := none

def singleValues : Table String Value := Table.ofPairs [("saved_network_bonus", .int 5)]

/-- The same in the only variable, with an information separator before the digit. -/
def separatedVariable : Environment :=
  Table.ofPairs [("SCORE_DEFAULT_SAVED_NETWORK_BONUS", "\x1c5")]

/-- Around an integer a blank that is no space makes a difference. -/
theorem loads_apart :
    single.HeldBy singleValues
      ∧ separatedVariable.entries
        = [(Source.variableName Source.defaultStem "saved_network_bonus",
          String.ofList ('\x1c' :: Numeral.chars 5))]
      ∧ Text.isBlank '\x1c' = true
      ∧ loadSet (some (.ofValues singleValues))
        ≠ loadSet (some (.ofEnvironment separatedVariable Source.defaultStem)) := by
  refine ⟨⟨by decide +kernel, by decide +kernel⟩, by decide +kernel, by decide, fun same => ?_⟩
  -- the text cannot be read as an integer, and the log says so
  have lengths : (loadSet (some (.ofValues singleValues))).log.length = 29
      ∧ (loadSet (some (.ofEnvironment separatedVariable Source.defaultStem))).log.length = 30 := by
    decide +kernel
  rw [same, lengths.2] at lengths
  cases lengths.1

end RoamTuning
