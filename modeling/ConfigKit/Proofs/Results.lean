-- SUMMARY: Facts about computations that may fail: two steps after each other, results without their errors, reworded errors.
/-!
# Results of computations that may fail

When a computation in two steps succeeds and when it fails, what is left of a result without its error,
and what a result says once its error is put into other words.
-/

namespace ConfigKit

variable {α β ε ε' : Type} {x : Except ε α} {next : α → Except ε β} {error : ε}

/-! ## Two steps -/

theorem ok_bind (value : α) (next : α → Except ε β) : (Except.ok value >>= next) = next value := rfl

theorem error_bind (error : ε) (next : α → Except ε β) :
    (Except.error error >>= next) = .error error := rfl

/-- A computation in two steps succeeds when both do. -/
theorem bind_eq_ok_iff {b : β} : x >>= next = .ok b ↔ ∃ a, x = .ok a ∧ next a = .ok b := by
  cases x with
  | ok a => simp [bind, Except.bind]
  | error e => simp [bind, Except.bind]

/-- A computation in two steps fails when one of them does. -/
theorem bind_eq_error_iff :
    x >>= next = .error error ↔ x = .error error ∨ ∃ a, x = .ok a ∧ next a = .error error := by
  cases x with
  | ok a => simp [bind, Except.bind]
  | error e => simp [bind, Except.bind]

theorem exists_bind_eq_ok_iff :
    (∃ b, x >>= next = .ok b) ↔ ∃ a, x = .ok a ∧ ∃ b, next a = .ok b := by
  cases x with
  | error fault => exact iff_of_false nofun nofun
  | ok a => simp [ok_bind]

/-- A computation fails unless it succeeds. -/
theorem exists_error_iff : (∃ error, x = .error error) ↔ ¬ ∃ a, x = .ok a := by
  cases x <;> simp

/-! ## Results without their error -/

theorem toOption_bind : (x >>= next).toOption = x.toOption.bind fun a => (next a).toOption := by
  cases x <;> rfl

theorem toOption_eq_some_iff {a : α} : x.toOption = some a ↔ x = .ok a := by
  cases x <;> simp [Except.toOption]

theorem toOption_eq_none_iff : x.toOption = none ↔ ∃ error, x = .error error := by
  cases x <;> simp [Except.toOption]

/-! ## Results in other words -/

theorem mapError_eq_ok_iff {f : ε → ε'} {value : α} : x.mapError f = .ok value ↔ x = .ok value := by
  cases x with
  | error error => exact iff_of_false nofun nofun
  | ok other =>
    constructor <;>
    · intro h
      cases h
      rfl

theorem mapError_eq_error_iff {f : ε → ε'} {mapped : ε'} :
    x.mapError f = .error mapped ↔ ∃ error, x = .error error ∧ f error = mapped := by
  cases x with
  | error error =>
    constructor
    · intro h
      cases h
      exact ⟨error, rfl, rfl⟩
    · rintro ⟨_, h, rfl⟩
      cases h
      rfl
  | ok value => exact iff_of_false nofun nofun

end ConfigKit
