-- SUMMARY: The outcome of two operations after each other.
import ConfigKit.FileTree.Outcome

/-!
# Outcomes

What an outcome says that two operations after each other have.
-/

namespace ConfigKit

namespace Outcome

variable {α β : Type} {first : Outcome α} {next : α → FileTree → Outcome β}

theorem andThen_of_error {failure : Failure} (h : first.result = .error failure) :
    first.andThen next = ⟨.error failure, first.tree, first.events⟩ := by
  rw [andThen, h]

theorem andThen_of_ok {value : α} (h : first.result = .ok value) :
    first.andThen next = { next value first.tree with
      events := first.events ++ (next value first.tree).events } := by
  rw [andThen, h]

/-- Two operations succeed together only if both do. -/
theorem andThen_ok {value : β} (h : (first.andThen next).result = .ok value) :
    ∃ between, first.result = .ok between ∧ (next between first.tree).result = .ok value ∧
      (first.andThen next).tree = (next between first.tree).tree := by
  cases hfirst : first.result with
  | error failure =>
    rw [andThen_of_error hfirst] at h
    cases h
  | ok between =>
    rw [andThen_of_ok hfirst] at h ⊢
    exact ⟨between, rfl, h, rfl⟩

end Outcome

end ConfigKit
