import RoamTuning.Outcome

/-!
# Computations that keep a log

A logged computation writes records, each with a level and a message, and ends
with a value or an error. What was written before an error stays written.

Results:

* `bind_of_error`: after an error nothing more is written.
* `bind_of_ok`: otherwise the second log follows the first one.
* `bind_assoc_eq`: with these, logged computations are a lawful monad.
* `outcome_bind_eq_ok_iff`: when two computations in a row end with a value.
-/

namespace RoamTuning

/-- How much a record matters. -/
inductive Level where
  | debug
  | info
  | warning
  | error
deriving DecidableEq, Repr

/-- A record of the log. -/
structure Record where
  level : Level
  message : String
deriving DecidableEq, Repr

/-- The records that a computation wrote, and how it ended. -/
structure Logged (ε : Type) (α : Type) where
  log : List Record
  outcome : Except ε α

namespace Logged

variable {ε α β : Type}

/-- Ends with a value and writes nothing. -/
def value (a : α) : Logged ε α := ⟨[], .ok a⟩

/-- Ends with an error and writes nothing. -/
def fail (e : ε) : Logged ε α := ⟨[], .error e⟩

/-- Goes on with the value of a computation; an error ends both. -/
def andThen (x : Logged ε α) (f : α → Logged ε β) : Logged ε β :=
  match x.outcome with
  | .ok a => ⟨x.log ++ (f a).log, (f a).outcome⟩
  | .error e => ⟨x.log, .error e⟩

instance : Monad (Logged ε) where
  pure := value
  bind := andThen

/-- Writes one record. -/
def note (level : Level) (message : String) : Logged ε Unit :=
  ⟨[⟨level, message⟩], .ok ()⟩

/-- Ends as a computation without a log has ended. -/
def ofExcept (r : Except ε α) : Logged ε α := ⟨[], r⟩

/-- The same computation with another word for its error. -/
def mapError {ε' : Type} (f : ε → ε') (x : Logged ε α) : Logged ε' α :=
  ⟨x.log, x.outcome.mapError f⟩

theorem pure_eq (a : α) : (pure a : Logged ε α) = ⟨[], .ok a⟩ := rfl

theorem bind_eq (x : Logged ε α) (f : α → Logged ε β) : (x >>= f) = x.andThen f := rfl

theorem bind_of_error {x : Logged ε α} {e : ε} (f : α → Logged ε β)
    (h : x.outcome = .error e) : (x >>= f) = ⟨x.log, .error e⟩ := by
  simp [bind_eq, andThen, h]

theorem bind_of_ok {x : Logged ε α} {a : α} (f : α → Logged ε β) (h : x.outcome = .ok a) :
    (x >>= f) = ⟨x.log ++ (f a).log, (f a).outcome⟩ := by
  simp [bind_eq, andThen, h]

theorem map_id_eq (x : Logged ε α) : id <$> x = x := by
  cases x with
  | mk log outcome => cases outcome <;> simp [Functor.map, andThen, value]

theorem bind_assoc_eq {γ : Type} (x : Logged ε α) (f : α → Logged ε β) (g : β → Logged ε γ) :
    x >>= f >>= g = x >>= fun a => f a >>= g := by
  cases x with
  | mk log outcome =>
    cases outcome with
    | error e => rfl
    | ok a =>
      simp only [bind_eq, andThen]
      cases (f a).outcome <;> simp

instance : LawfulMonad (Logged ε) :=
  LawfulMonad.mk' _ map_id_eq (fun a f => by simp [bind_eq, andThen, pure_eq]) bind_assoc_eq

/-! ## How logged computations end -/

theorem outcome_bind_eq_ok_iff {x : Logged ε α} {f : α → Logged ε β} {b : β} :
    (x >>= f).outcome = .ok b ↔ ∃ a, x.outcome = .ok a ∧ (f a).outcome = .ok b := by
  rw [bind_eq, andThen]
  cases x.outcome <;> simp

theorem outcome_map_eq_ok_iff {f : α → β} {x : Logged ε α} {b : β} :
    (f <$> x).outcome = .ok b ↔ ∃ a, x.outcome = .ok a ∧ f a = b := by
  rw [map_eq_pure_bind, outcome_bind_eq_ok_iff]
  simp [pure_eq]

theorem outcome_mapError_eq_ok_iff {ε' : Type} {f : ε → ε'} {x : Logged ε α} {a : α} :
    (x.mapError f).outcome = .ok a ↔ x.outcome = .ok a := Outcome.mapError_eq_ok_iff

end Logged

end RoamTuning
