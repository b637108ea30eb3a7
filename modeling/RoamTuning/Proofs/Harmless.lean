import Mathlib.Data.List.Basic
import RoamTuning.Proofs.Numerals
import RoamTuning.Value.Order

/-!
# Texts that cannot break a line

A text is harmless if it has no line break and no other control character, and plain if it
has nothing but the printable characters of ASCII. Numbers are plain in decimal, and a text
between quotes is harmless whatever it was, because what is not printable is escaped. So
values of any kind are shown harmlessly, at every depth, and numbers plainly.

Results:

* `Consists.append`, `consists_joined`: texts of one class put together are of that class.
* `harmless_quoted`: a quoted text is harmless.
* `plain_numeral`, `plain_float`: numbers are plain.
* `harmless_shown`: every value is shown harmlessly.
* `plain_shown_of_number`, `plain_written_of_number`: numbers are shown and written plainly.
-/

namespace RoamTuning

open Text

namespace Text

/-! ## Classes of texts -/

/-- A control character: one of the two control ranges, or a separator of lines or
    paragraphs. All line breaks are among them. -/
def isControl (c : Char) : Bool :=
  c.toNat ≤ 0x1F || (0x7F ≤ c.toNat && c.toNat ≤ 0x9F) || c.toNat == 0x2028 || c.toNat == 0x2029

/-- A printable character of ASCII. -/
def isPlainChar (c : Char) : Bool := 0x20 ≤ c.toNat && c.toNat ≤ 0x7E

/-- Whether a text has characters of one class only. -/
def Consists (p : Char → Bool) (s : String) : Prop := ∀ c ∈ s.toList, p c = true

instance (p : Char → Bool) (s : String) : Decidable (Consists p s) :=
  decidable_of_iff (s.toList.all p = true) List.all_eq_true

/-- Whether a text has no control character. -/
abbrev Harmless (s : String) : Prop := Consists (fun c => !isControl c) s

/-- Whether a text has printable characters of ASCII only. -/
abbrev Plain (s : String) : Prop := Consists isPlainChar s

section Consists

variable {p q : Char → Bool} {s t : String}

theorem consists_ofList {cs : List Char} :
    Consists p (String.ofList cs) ↔ ∀ c ∈ cs, p c = true := by
  rw [Consists, String.toList_ofList]

theorem Consists.append (hs : Consists p s) (ht : Consists p t) : Consists p (s ++ t) := by
  intro c hc
  rw [String.toList_append] at hc
  rcases List.mem_append.1 hc with hc | hc
  · exact hs c hc
  · exact ht c hc

theorem Consists.append_append {u : String} (hs : Consists p s) (ht : Consists p t)
    (hu : Consists p u) : Consists p (s ++ t ++ u) := (hs.append ht).append hu

theorem Consists.mono (hs : Consists p s) (h : ∀ c, p c = true → q c = true) : Consists q s :=
  fun c hc => h c (hs c hc)

/-- Texts of one class are joined to a text of that class. -/
theorem consists_joined {sep : String} (hsep : Consists p sep) {ts : List String}
    (h : ∀ t ∈ ts, Consists p t) : Consists p (joined sep ts) := by
  induction ts with
  | nil => exact fun c hc => absurd hc (by simp [joined])
  | cons t r ih =>
    rw [List.forall_mem_cons] at h
    cases r with
    | nil => exact h.1
    | cons u r => exact (h.1.append hsep).append (ih h.2)

end Consists

theorem isControl_of_isPlainChar {c : Char} (h : isPlainChar c = true) : isControl c = false := by
  simp only [isPlainChar, Bool.and_eq_true, decide_eq_true_eq] at h
  simp only [isControl, Bool.or_eq_false_iff, Bool.and_eq_false_iff, decide_eq_false_iff_not,
    beq_eq_false_iff_ne]
  omega

theorem Plain.harmless {s : String} (h : Plain s) : Harmless s :=
  h.mono fun c hc => by rw [isControl_of_isPlainChar hc]; rfl

/-! ## Quoted texts -/

theorem isPlainChar_of_mem_hexadecimal {n : Nat} {c : Char} (h : c ∈ Nat.toDigits 16 n) :
    isPlainChar c = true := by
  have single : ∀ d < 16, isPlainChar (Nat.digitChar d) = true := by decide +kernel
  induction n using Nat.strongRecOn with
  | ind n ih =>
    by_cases small : n < 16
    · rw [Nat.toDigits_of_lt_base small, List.mem_singleton] at h
      exact h ▸ single n small
    · rw [Nat.toDigits_of_base_le (by omega) (by omega), List.mem_append, List.mem_singleton] at h
      rcases h with front | rfl
      · exact ih (n / 16) (by omega) front
      · exact single _ (Nat.mod_lt _ (by omega))

theorem isPlainChar_of_mem_padded {width n : Nat} {c : Char} (h : c ∈ hexadecimal width n) :
    isPlainChar c = true := by
  rcases List.mem_append.1 h with zero | digit
  · rw [List.eq_of_mem_replicate zero]
    rfl
  · exact isPlainChar_of_mem_hexadecimal digit

/-- A printable character is no control character. -/
theorem isControl_of_isPrintable {c : Char} (h : isPrintable c = true) : isControl c = false := by
  have separators : unprintableRanges.contains 0x2028 = true
      ∧ unprintableRanges.contains 0x2029 = true := by decide +kernel
  cases control : isControl c with
  | false => rfl
  | true =>
    simp only [isControl, Bool.or_eq_true, Bool.and_eq_true, decide_eq_true_eq, beq_iff_eq]
      at control
    rcases control with ((low | high) | line) | paragraph
    · rw [isPrintable_eq_false_of_control (.inl (by omega))] at h
      cases h
    · rw [isPrintable_eq_false_of_control (.inr (by omega))] at h
      cases h
    · simp [isPrintable, line, separators.1] at h
    · simp [isPrintable, paragraph, separators.2] at h

/-- Between quotes a character is escaped if it is the quote or the backslash, stands for
    itself if it is printable, and otherwise is written in plain characters. -/
theorem escape_cases (quote c : Char) :
    (escape quote c = [backslash, c] ∧ (c = quote ∨ c = backslash))
      ∨ (escape quote c = [c] ∧ isPrintable c = true)
      ∨ ∀ d ∈ escape quote c, isPlainChar d = true := by
  have coded : ∀ (a : Char) (width n : Nat), isPlainChar a = true →
      ∀ d ∈ backslash :: a :: hexadecimal width n, isPlainChar d = true := fun a width n ha =>
    List.forall_mem_cons.2 ⟨rfl, List.forall_mem_cons.2 ⟨ha, fun _ => isPlainChar_of_mem_padded⟩⟩
  unfold escape
  split
  · rename_i same
    exact .inl ⟨rfl, by simpa using same⟩
  · split
    · rename_i printable
      exact .inr (.inl ⟨rfl, printable⟩)
    · refine .inr (.inr ?_)
      split
      · exact List.all_eq_true.1 rfl
      · split
        · exact List.all_eq_true.1 rfl
        · split
          · exact List.all_eq_true.1 rfl
          · split
            · exact coded 'x' 2 _ rfl
            · split
              · exact coded 'u' 4 _ rfl
              · exact coded 'U' 8 _ rfl

/-- What stands for a character between quotes has no control character. -/
theorem isControl_of_mem_escape {quote c d : Char} (harmless : isControl quote = false)
    (h : d ∈ escape quote c) : isControl d = false := by
  rcases escape_cases quote c with ⟨e, own⟩ | ⟨e, printable⟩ | plain
  · rw [e] at h
    rcases List.mem_cons.1 h with rfl | h
    · rfl
    · obtain rfl := List.mem_singleton.1 h
      rcases own with rfl | rfl
      · exact harmless
      · rfl
  · rw [e] at h
    exact List.mem_singleton.1 h ▸ isControl_of_isPrintable printable
  · exact isControl_of_isPlainChar (plain d h)

theorem isControl_of_mem_quotedChars {cs : List Char} {c : Char} (h : c ∈ quotedChars cs) :
    isControl c = false := by
  have quote : isControl (enclosingQuote cs) = false := by
    unfold enclosingQuote
    split <;> rfl
  rcases List.mem_append.1 h with front | last
  · rcases List.mem_cons.1 front with rfl | inside
    · exact quote
    · obtain ⟨d, -, escaped⟩ := List.mem_flatMap.1 inside
      exact isControl_of_mem_escape quote escaped
  · exact List.mem_singleton.1 last ▸ quote

/-- **A quoted text is harmless**, whatever it was. -/
theorem harmless_quoted (s : String) : Harmless (quoted s) :=
  consists_ofList.2 fun c hc => by simp [isControl_of_mem_quotedChars hc]

end Text

/-! ## Numbers -/

theorem isPlainChar_of_isAsciiDigit {c : Char} (h : isAsciiDigit c = true) :
    isPlainChar c = true := by
  simp only [isAsciiDigit, Bool.and_eq_true, decide_eq_true_eq] at h
  simp only [isPlainChar, Bool.and_eq_true, decide_eq_true_eq]
  omega

theorem isPlainChar_of_mem_digits {n : Nat} {c : Char} (h : c ∈ Numeral.digits n) :
    isPlainChar c = true :=
  isPlainChar_of_isAsciiDigit (Numeral.isAsciiDigit_of_mem_digits h)

/-- Integers are plain. -/
theorem plain_numeral (n : Int) : Plain (Numeral.text n) :=
  consists_ofList.2 fun c hc => by
    rcases Numeral.mem_chars hc with rfl | digit
    · rfl
    · exact isPlainChar_of_isAsciiDigit digit

namespace Binary64

theorem isPlainChar_of_mem_padded {width n : Nat} {c : Char} (h : c ∈ padded width n) :
    isPlainChar c = true := by
  rcases List.mem_append.1 h with zero | digit
  · exact List.eq_of_mem_replicate zero ▸ rfl
  · exact isPlainChar_of_mem_digits digit

theorem isPlainChar_of_mem_pointed {ds : List Char} (digit : ∀ d ∈ ds, isPlainChar d = true)
    {whole : Int} {c : Char} (h : c ∈ pointed ds whole) : isPlainChar c = true := by
  have zeros : ∀ k, ∀ d ∈ List.replicate k '0', isPlainChar d = true := fun k d hd =>
    List.eq_of_mem_replicate hd ▸ rfl
  unfold pointed at h
  split at h
  · have all : ∀ d ∈ '0' :: '.' :: List.replicate (-whole).toNat '0' ++ ds,
        isPlainChar d = true := by
      intro d hd
      rcases List.mem_append.1 hd with front | back
      · rcases List.mem_cons.1 front with rfl | front
        · rfl
        · rcases List.mem_cons.1 front with rfl | front
          · rfl
          · exact zeros _ d front
      · exact digit d back
    exact all c h
  · rcases List.mem_append.1 h with front | back
    · rcases List.mem_append.1 front with front | front
      · exact digit c (List.mem_of_mem_take front)
      · exact zeros _ c front
    · rcases List.mem_cons.1 back with rfl | back
      · rfl
      · split at back
        · exact List.mem_singleton.1 back ▸ rfl
        · exact digit c (List.mem_of_mem_drop back)

theorem isPlainChar_of_mem_scientific {style : Layout} {ds : List Char}
    (digit : ∀ d ∈ ds, isPlainChar d = true) {power : Int} {c : Char}
    (h : c ∈ scientific style ds power) : isPlainChar c = true := by
  unfold scientific at h
  rcases List.mem_append.1 h with front | back
  · rcases List.mem_append.1 front with front | front
    · exact digit c (List.mem_of_mem_take front)
    · split at front
      · cases front
      · rcases List.mem_cons.1 front with rfl | front
        · rfl
        · exact digit c (List.mem_of_mem_drop front)
  · rcases List.mem_cons.1 back with rfl | back
    · rfl
    · rcases List.mem_cons.1 back with rfl | back
      · split <;> rfl
      · exact isPlainChar_of_mem_padded back

theorem isPlainChar_of_mem_decimalChars {style : Layout} {n : Nat} {unit : Int} {c : Char}
    (h : c ∈ decimalChars style n unit) : isPlainChar c = true := by
  have digit : ∀ d ∈ Numeral.digits n, isPlainChar d = true := fun _ => isPlainChar_of_mem_digits
  simp only [decimalChars] at h
  split at h
  · exact isPlainChar_of_mem_pointed digit h
  · exact isPlainChar_of_mem_scientific digit h

/-- Floating-point numbers are plain. -/
theorem plain_float (x : Binary64) : Plain x.text := by
  cases x with
  | nan => decide +kernel
  | infinite negative => cases negative <;> decide +kernel
  | finite negative m e =>
    refine consists_ofList.2 fun c hc => ?_
    rcases List.mem_append.1 hc with sign | body
    · split at sign
      · exact List.mem_singleton.1 sign ▸ rfl
      · cases sign
    · split at body
      · have zero : ∀ d ∈ ['0', '.', '0'], isPlainChar d = true := List.all_eq_true.1 rfl
        exact zero c body
      · exact isPlainChar_of_mem_decimalChars body

end Binary64

/-! ## Values -/

namespace Value

theorem plain_showBool (b : Bool) : Plain (showBool b) := by
  cases b <;> decide +kernel

theorem consists_showTuple {p : Char → Bool}
    (paren : Consists p "(" ∧ Consists p ",)" ∧ Consists p ")") (sep : Consists p ", ")
    {ts : List String} (h : ∀ t ∈ ts, Consists p t) : Consists p (showTuple ts) := by
  unfold showTuple
  split
  · rename_i t
    exact (paren.1.append (h t (by simp))).append paren.2.1
  · exact (paren.1.append (consists_joined sep h)).append paren.2.2

theorem plain_showIntegers (ns : List Int) : Plain (showIntegers ns) := by
  refine consists_showTuple (by decide +kernel) (by decide +kernel) fun t ht => ?_
  obtain ⟨n, -, rfl⟩ := List.mem_map.1 ht
  exact plain_numeral n

mutual

/-- **Every value is shown harmlessly**, whatever texts there are inside it. -/
theorem harmless_shown : ∀ v : Value, Harmless v.shown
  | null => by rw [shown]; decide +kernel
  | bool b => by rw [shown]; exact (plain_showBool b).harmless
  | int n => by rw [shown]; exact (plain_numeral n).harmless
  | float x => by rw [shown]; exact x.plain_float.harmless
  | text s => by rw [shown]; exact harmless_quoted s
  | list items => by
    rw [shown]
    have inside : Harmless (joined ", " (showItems items)) :=
      consists_joined (by decide +kernel) (harmless_showItems items)
    exact Consists.append_append (by decide +kernel) inside (by decide +kernel)
  | tuple items => by
    rw [shown]
    exact consists_showTuple (by decide +kernel) (by decide +kernel) (harmless_showItems items)
  | object members => by
    rw [shown]
    have inside : Harmless (joined ", " (showMembers members)) :=
      consists_joined (by decide +kernel) (harmless_showMembers members)
    exact Consists.append_append (by decide +kernel) inside (by decide +kernel)

theorem harmless_showItems : ∀ items : List Value, ∀ t ∈ showItems items, Harmless t
  | [] => by rw [showItems]; exact nofun
  | v :: r => by
    rw [showItems]
    exact List.forall_mem_cons.2 ⟨harmless_shown v, harmless_showItems r⟩

theorem harmless_showMembers :
    ∀ members : List (String × Value), ∀ t ∈ showMembers members, Harmless t
  | [] => by rw [showMembers]; exact nofun
  | m :: r => by
    rw [showMembers]
    have first : Harmless (quoted m.1 ++ ": " ++ m.2.shown) :=
      (harmless_quoted m.1).append_append (by decide +kernel) (harmless_shown m.2)
    exact List.forall_mem_cons.2 ⟨first, harmless_showMembers r⟩

end

/-- Whether a value is a number or a truth value. -/
def IsNumber (v : Value) : Prop := v.magnitude?.isSome = true

theorem isNumber_int (n : Int) : (int n).IsNumber := rfl

/-- Numbers are shown plainly. -/
theorem plain_shown_of_number {v : Value} (h : v.IsNumber) : Plain v.shown := by
  cases v with
  | int n => rw [shown]; exact plain_numeral n
  | bool b => rw [shown]; exact plain_showBool b
  | float x => rw [shown]; exact x.plain_float
  | _ => cases h

/-- By themselves they are written in the same way. -/
theorem plain_written_of_number {v : Value} (h : v.IsNumber) : Plain v.written := by
  cases v with
  | int n => exact plain_shown_of_number h
  | bool b => exact plain_shown_of_number h
  | float x => exact plain_shown_of_number h
  | _ => cases h

/-- What can be compared with a number is a number. -/
theorem isNumber_of_compare {c : Comparison} {v w : Value} {b : Bool}
    (h : compare c v w = .ok b) (number : w.IsNumber) : v.IsNumber := by
  have single : compare c v w = compareSingle c v w := by
    cases w with
    | int n => cases v <;> simp [compare]
    | bool b => cases v <;> simp [compare]
    | float x => cases v <;> simp [compare]
    | _ => cases number
  rw [single, compareSingle] at h
  split at h
  · rename_i magnitude _
    rw [IsNumber, magnitude]
    rfl
  · cases h

end Value

end RoamTuning
