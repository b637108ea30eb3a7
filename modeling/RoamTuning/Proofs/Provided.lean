import RoamTuning.Proofs.Messages
import RoamTuning.Proofs.Overlay

/-!
# Logs of loading

A computation writes only texts of a class if each of its parts does. A source that is
provided, over values or over the variables of an environment, quotes what it does not
understand, so what is logged of its answers is harmless, and so is the log of a load.

Results:

* `Logged.WritesOnly.bind`: computations in a row.
* `Source.Provided.harmless_record`: what is logged of an answer.
* `writesOnly_loadBand`, `writesOnly_loadSet`: loading.
-/

namespace RoamTuning

open Text

/-! ## What computations write -/

namespace Logged

variable {ε α β : Type} {P Q : String → Prop} {x : Logged ε α}

/-- Whether all messages that a computation writes are of one class. -/
def WritesOnly (P : String → Prop) (x : Logged ε α) : Prop := ∀ r ∈ x.log, P r.message

theorem WritesOnly.mono (h : x.WritesOnly P) (imp : ∀ m, P m → Q m) : x.WritesOnly Q :=
  fun r hr => imp _ (h r hr)

theorem writesOnly_of_nil (h : x.log = []) : x.WritesOnly P := by
  intro r hr
  rw [h] at hr
  cases hr

theorem writesOnly_note {level : Level} {message : String} (h : P message) :
    (note level message : Logged ε Unit).WritesOnly P :=
  List.forall_mem_singleton.2 h

/-- Of the second computation it is enough to know what it writes after the first. -/
theorem WritesOnly.bind (h : x.WritesOnly P) {f : α → Logged ε β}
    (later : ∀ a, x.outcome = .ok a → (f a).WritesOnly P) : (x >>= f).WritesOnly P := by
  cases outcome : x.outcome with
  | error e =>
    rw [bind_of_error f outcome]
    exact h
  | ok a =>
    rw [bind_of_ok f outcome]
    exact List.forall_mem_append.2 ⟨h, later a outcome⟩

theorem WritesOnly.map (h : x.WritesOnly P) (f : α → β) : (f <$> x).WritesOnly P := by
  rw [map_eq_pure_bind]
  exact h.bind fun _ _ => writesOnly_of_nil rfl

theorem WritesOnly.mapError {ε' : Type} (h : x.WritesOnly P) (f : ε → ε') :
    (x.mapError f).WritesOnly P := h

end Logged

/-! ## Sources that are provided -/

/-- The sources that are provided: over values of any kind, and over the variables of an
    environment whose names start with a value of any kind. -/
inductive Source.Provided : Source → Prop
  | values (values : Table String Value) : Provided (.ofValues values)
  | environment (env : Environment) (stem : Value) : Provided (.ofStem env stem)

/-- Answers without a message, or with a harmless one. A source that does not work at all
    is not among them. -/
inductive Answer.IsHarmless : Answer → Prop
  | value (v : Value) : IsHarmless (.value v)
  | absent (name : String) : IsHarmless (.absent name)
  | wrongKind {m : String} (h : Harmless m) : IsHarmless (.wrongKind m)
  | wrongValue {m : String} (h : Harmless m) : IsHarmless (.wrongValue m)

namespace Source

variable {name : String}

theorem harmless_notAStem (v : Value) : Harmless (notAStem v) := by
  have other : Harmless ("unsupported operand type(s) for +: '" ++ v.kindName ++ "' and 'str'") :=
    Consists.append_append (by decide +kernel) v.plain_kindName.harmless (by decide +kernel)
  cases v with
  | list items =>
    exact show Harmless "can only concatenate list (not \"str\") to list" by decide +kernel
  | _ => exact other

theorem harmless_notOfKind (named : Plain name) {kind : String} (known : Harmless kind)
    {shown : String} (h : Harmless shown) :
    Harmless ("Resource " ++ name ++ kind ++ shown) :=
  (Consists.append_append (by decide +kernel) named.harmless known).append h

theorem isHarmless_ofValues (values : Table String Value) (named : Plain name) :
    ((ofValues values).integer name).IsHarmless ∧ ((ofValues values).truth name).IsHarmless := by
  constructor
  · simp only [ofValues]
    split
    · exact .absent name
    · exact .value _
    · exact .wrongKind (harmless_notOfKind named (by decide +kernel) (Value.harmless_shown _))
  · simp only [ofValues]
    split
    · exact .absent name
    · exact .value _
    · exact .wrongKind (harmless_notOfKind named (by decide +kernel) (Value.harmless_shown _))

theorem isHarmless_ofEnvironment (env : Environment) (stem : String) (named : Plain name) :
    ((ofEnvironment env stem).integer name).IsHarmless
      ∧ ((ofEnvironment env stem).truth name).IsHarmless := by
  constructor
  · simp only [ofEnvironment]
    split
    · exact .absent name
    · split
      · exact .value _
      · exact .wrongValue (harmless_problem _)
  · simp only [ofEnvironment]
    split
    · exact .absent name
    · split
      · exact .value _
      · split
        · exact .value _
        · exact .wrongValue (harmless_notOfKind named (by decide +kernel) (harmless_quoted _))

/-- **What a provided source answers is harmless**, whatever its values and variables hold. -/
theorem Provided.isHarmless {source : Source} (provided : source.Provided) (named : Plain name) :
    (source.integer name).IsHarmless ∧ (source.truth name).IsHarmless := by
  cases provided with
  | values values => exact isHarmless_ofValues values named
  | environment env stem =>
    cases stem with
    | text s => exact isHarmless_ofEnvironment env s named
    | _ => exact ⟨.wrongKind (harmless_notAStem _), .wrongKind (harmless_notAStem _)⟩

end Source

/-! ## What is logged of answers -/

namespace Question

variable {q : Question}

theorem plain_wanted (q : Question) : Plain q.wanted := by
  cases q with
  | integer name n => exact show Plain "int" by decide +kernel
  | truth name b => exact show Plain "bool" by decide +kernel

theorem plain_shown_builtIn (q : Question) : Plain q.builtIn.shown := by
  cases q with
  | integer name n => exact Value.plain_shown_of_number rfl
  | truth name b => exact Value.plain_shown_of_number rfl

/-- What is logged of a harmless answer is harmless. -/
theorem harmless_record (named : Plain q.name) {a : Answer} (answer : a.IsHarmless) {r : Record}
    (h : q.record? a = some r) : Harmless r.message := by
  have unusable : Harmless ("Unusable platform default for " ++ q.name ++ ": ") :=
    Consists.append_append (by decide +kernel) named.harmless (by decide +kernel)
  cases answer with
  | value v =>
    simp only [record?] at h
    split at h
    · cases h
    · obtain rfl := Option.some.inj h
      exact ((Consists.append (by decide +kernel) named.harmless).append_append (by decide +kernel)
        q.plain_wanted.harmless).append_append (by decide +kernel) v.harmless_shown
  | absent m =>
    obtain rfl := Option.some.inj h
    exact (Consists.append (by decide +kernel) named.harmless).append_append (by decide +kernel)
      q.plain_shown_builtIn.harmless
  | wrongKind message => exact Option.some.inj h ▸ unusable.append message
  | wrongValue message => exact Option.some.inj h ▸ unusable.append message

end Question

section Loading

variable {source : Source}

open Logged

theorem writesOnly_asking (provided : source.Provided) {qs : List Question}
    (named : ∀ q ∈ qs, Plain q.name) : (source.asking qs).WritesOnly Harmless := by
  induction qs with
  | nil => exact writesOnly_of_nil rfl
  | cons q r ih =>
    rw [List.forall_mem_cons] at named
    rw [Source.asking_cons]
    refine WritesOnly.bind (fun record mem => ?_) fun _ _ => ih named.2
    have answer : (source.answer q).IsHarmless := by
      cases q with
      | integer name n => exact (provided.isHarmless named.1).1
      | truth name b => exact (provided.isHarmless named.1).2
    exact q.harmless_record named.1 answer (Option.mem_toList.1 mem)

end Loading

/-- The defaults of a band are loaded with a harmless log. -/
theorem writesOnly_loadBand {source : Option Source} (provided : ∀ s ∈ source, s.Provided)
    (b : Band) : (loadBand source b ParamSet.builtIn).WritesOnly Harmless := by
  cases source with
  | none => exact Logged.writesOnly_of_nil rfl
  | some s =>
    have named : ∀ q ∈ thresholdQuestions b, Plain q.name := by cases b <;> decide +kernel
    rw [loadBand_eq]
    exact (writesOnly_asking (provided s rfl) named).bind fun _ _ => Logged.writesOnly_of_nil rfl

/-- **A parameter set is loaded with a harmless log.** -/
theorem writesOnly_loadSet {source : Option Source} (provided : ∀ s ∈ source, s.Provided) :
    (loadSet source).WritesOnly Harmless := by
  cases source with
  | none => exact Logged.writesOnly_of_nil rfl
  | some s =>
    have named : ∀ q ∈ questions, Plain q.name := by decide +kernel
    rw [loadSet_eq]
    refine (writesOnly_asking (provided s rfl) named).bind fun _ _ => ?_
    cases check : s.overlay.check with
    | ok _ => exact Logged.writesOnly_of_nil rfl
    | error d =>
      obtain ⟨v, rfl⟩ := ParamSet.isViolation_of_check check
      have plain : Plain v.message := s.overlay.tells_check.fails v check
      exact List.forall_mem_singleton.2
        (Consists.append_append (by decide +kernel) plain.harmless (by decide +kernel))

end RoamTuning
