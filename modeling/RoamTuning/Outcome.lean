/-!
# Outcomes

How a computation ends: with a value or with an error. Changing the word for an
error leaves a value alone. A check ends with nothing or with an error, and
checks that are made one after the other pass if each of them does.

Results:

* `mapError_ok`, `mapError_error`: the two cases of `Except.mapError`.
* `mapError_eq_ok_iff`: it keeps what ends with a value.
* `bind_eq_ok_iff`, `bind_eq_error_iff`: how two computations in a row end.
* `of_bind_eq_error`: what is so of the errors of both is so of the error that ends them.
* `then_eq_ok_iff`, `forM_eq_ok_iff`: when checks in a row pass.
* `then_eq_error_iff`: where the error of two checks in a row comes from.
-/

namespace RoamTuning.Outcome

variable {ε α β : Type}

@[simp] theorem mapError_ok {ε' : Type} (f : ε → ε') (a : α) :
    (Except.ok a : Except ε α).mapError f = .ok a := rfl

@[simp] theorem mapError_error {ε' : Type} (f : ε → ε') (e : ε) :
    (Except.error e : Except ε α).mapError f = .error (f e) := rfl

theorem mapError_eq_ok_iff {ε' : Type} {f : ε → ε'} {x : Except ε α} {a : α} :
    x.mapError f = .ok a ↔ x = .ok a := by
  cases x <;> simp

theorem bind_eq_ok_iff {x : Except ε α} {f : α → Except ε β} {b : β} :
    (x >>= f) = .ok b ↔ ∃ a, x = .ok a ∧ f a = .ok b := by
  cases x <;> simp [bind, Except.bind]

theorem bind_eq_error_iff {x : Except ε α} {f : α → Except ε β} {e : ε} :
    (x >>= f) = .error e ↔ x = .error e ∨ ∃ a, x = .ok a ∧ f a = .error e := by
  cases x <;> simp [bind, Except.bind]

theorem of_bind_eq_error {P : ε → Prop} {x : Except ε α} {f : α → Except ε β}
    (first : ∀ e, x = .error e → P e) (later : ∀ a e, f a = .error e → P e) {e : ε}
    (h : (x >>= f) = .error e) : P e := by
  rcases bind_eq_error_iff.1 h with h | ⟨a, -, h⟩
  · exact first e h
  · exact later a e h

theorem then_eq_ok_iff {x y : Except ε Unit} :
    (x >>= fun _ => y) = .ok () ↔ x = .ok () ∧ y = .ok () := by
  cases x <;> simp [bind, Except.bind]

theorem then_eq_error_iff {x y : Except ε Unit} {e : ε} :
    (x >>= fun _ => y) = .error e ↔ x = .error e ∨ (x = .ok () ∧ y = .error e) := by
  cases x <;> simp [bind, Except.bind]

theorem forM_cons_eq (f : α → Except ε Unit) (a : α) (r : List α) :
    (a :: r).forM f = (f a >>= fun _ => r.forM f) := rfl

theorem forM_eq_ok_iff {f : α → Except ε Unit} {xs : List α} :
    xs.forM f = .ok () ↔ ∀ a ∈ xs, f a = .ok () := by
  induction xs with
  | nil => simp [pure, Except.pure]
  | cons a r ih => rw [forM_cons_eq, then_eq_ok_iff, ih, List.forall_mem_cons]

end RoamTuning.Outcome
