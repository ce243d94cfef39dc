/-! Steps that can fail, one after the other. -/
namespace EntitySieve

variable {ε α β : Type}

theorem bind_eq_ok_iff {x : Except ε α} {f : α → Except ε β} {b : β} :
    x >>= f = .ok b ↔ ∃ a, x = .ok a ∧ f a = .ok b := by
  cases x <;> simp [bind, Except.bind]

theorem eq_ok_of_toOption {x : Except ε α} {a : α} (h : x.toOption = some a) : x = .ok a := by
  cases x with
  | error _ => contradiction
  | ok _ => exact congrArg _ (Option.some.inj h)

/-- Results that are the same apart from the ways to fail. -/
theorem toOption_congr {x y : Except ε α} (h : ∀ a, x = .ok a ↔ y = .ok a) :
    x.toOption = y.toOption := by
  cases x with
  | ok a => rw [(h a).mp rfl]
  | error _ =>
    cases y with
    | ok b => exact absurd ((h b).mpr rfl) (by simp)
    | error _ => rfl

/-- What every step keeps that succeeds, a row of steps keeps that does. -/
theorem foldlM_keeps {P : α → Prop} {f : α → β → Except ε α}
    (hstep : ∀ {a b a'}, P a → f a b = .ok a' → P a') {bs : List β} {a a' : α}
    (h : bs.foldlM f a = .ok a') (ha : P a) : P a' := by
  induction bs generalizing a with
  | nil =>
    cases h
    exact ha
  | cons b bs ih =>
    rw [List.foldlM_cons, bind_eq_ok_iff] at h
    obtain ⟨next, hnext, h⟩ := h
    exact ih h (hstep ha hnext)

/-- A row of steps succeeds as another one does if each of its steps does. -/
theorem foldlM_congr {f g : α → β → Except ε α}
    (hstep : ∀ {a b a'}, f a b = .ok a' → g a b = .ok a') {bs : List β} {a a' : α}
    (h : bs.foldlM f a = .ok a') : bs.foldlM g a = .ok a' := by
  induction bs generalizing a with
  | nil => exact h
  | cons b bs ih =>
    rw [List.foldlM_cons, bind_eq_ok_iff] at h ⊢
    obtain ⟨next, hnext, h⟩ := h
    exact ⟨next, hstep hnext, ih h⟩

end EntitySieve
