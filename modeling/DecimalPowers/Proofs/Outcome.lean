import DecimalPowers.Logged

/-!
Outcomes of composed computations. A sequence succeeds when each step does, and it fails with the
cause of the first step that fails.
-/

set_option autoImplicit false
set_option relaxedAutoImplicit false

namespace DecimalPowers

section Outcome

variable {α β δ ε : Type}

theorem bind_eq_ok_iff {x : Except ε α} {f : α → Except ε β} {b : β} :
    x.bind f = .ok b ↔ ∃ a, x = .ok a ∧ f a = .ok b := by
  cases x <;> simp [Except.bind]

theorem bind_eq_error_iff {x : Except ε α} {f : α → Except ε β} {cause : ε} :
    x.bind f = .error cause ↔ x = .error cause ∨ ∃ a, x = .ok a ∧ f a = .error cause := by
  cases x <;> simp [Except.bind]

theorem bind_ne_error {x : Except ε α} {f : α → Except ε β} {cause : ε} (first : x ≠ .error cause)
    (next : ∀ a, f a ≠ .error cause) : x.bind f ≠ .error cause := by
  intro h
  rcases bind_eq_error_iff.mp h with failed | ⟨a, -, failed⟩
  · exact first failed
  · exact next a failed

theorem mapError_eq_ok_iff {x : Except ε α} {f : ε → δ} {a : α} :
    x.mapError f = .ok a ↔ x = .ok a := by
  cases x with
  | error cause =>
    constructor
    · intro h
      cases h
    · intro h
      cases h
  | ok b =>
    constructor
    · intro h
      cases h
      rfl
    · intro h
      cases h
      rfl

theorem mapError_eq_error_iff {x : Except ε α} {f : ε → δ} {cause : δ} :
    (x.mapError f : Except δ α) = .error cause ↔
      ∃ origin, x = .error origin ∧ f origin = cause := by
  cases x with
  | error origin =>
    constructor
    · intro h
      cases h
      exact ⟨origin, rfl, rfl⟩
    · rintro ⟨origin, h, rfl⟩
      cases h
      rfl
  | ok b =>
    constructor
    · intro h
      cases h
    · rintro ⟨origin, h, -⟩
      cases h

theorem map_eq_ok_iff {x : Except ε α} {f : α → β} {b : β} :
    x.map f = .ok b ↔ ∃ a, x = .ok a ∧ f a = b := by
  cases x <;> simp [Except.map]

theorem map_eq_error_iff {x : Except ε α} {f : α → β} {cause : ε} :
    x.map f = .error cause ↔ x = .error cause := by
  cases x <;> simp [Except.map]

theorem Logged.outcome_bind_eq_ok_iff {x : Logged ε α} {f : α → Logged ε β} {b : β} :
    (x >>= f).outcome = .ok b ↔ ∃ a, x.outcome = .ok a ∧ (f a).outcome = .ok b := by
  rw [outcome_bind, bind_eq_ok_iff]

end Outcome

end DecimalPowers
