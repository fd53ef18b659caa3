-- SUMMARY: The two stages at which an expression can be refused, and what a refusal tells.
import ConfigKit.Proofs.Condition.Truth

/-!
# The stages of an expression

An expression is read in two stages: first the wrapper, and then the condition that is its body. A
refusal tells the stage, and its message ends with the text that was refused there. Solving a refused
expression gives false and one event; solving any other gives the truth value and no event
(`refusals_tell_stage`).
-/

namespace ConfigKit

/-- The stage at which an expression is refused. -/
inductive Condition.Stage where
  | wrapper
  | condition
  deriving DecidableEq

/-- The stage that a failure tells, if it is one of reading an expression. -/
def Failure.stage? : Failure → Option Condition.Stage
  | .noWrapper _ => some .wrapper
  | .noCondition _ => some .condition
  | _ => none

namespace Condition

/-- The expression is the body between the brackets. A body has a character, and no line feed. -/
def IsBody (expression body : String) : Prop :=
  expression = wrapped body ∧ body ≠ "" ∧ '\n' ∉ body.toList

/-- The expression is refused at a stage, with a message that ends with the text. -/
def RefusedAt (expression : String) (stage : Stage) (text : String) : Prop :=
  ∃ failure, ofExpression expression = .error failure ∧ failure.stage? = some stage ∧
    ∃ front, failure.message = front ++ text

variable {expression body text : String} {stage : Stage} {failure : Failure} {c : Condition}

theorem unwrap?_eq_none_iff : unwrap? expression = none ↔ ¬ ∃ body, IsBody expression body := by
  rw [Option.eq_none_iff_forall_ne_some, not_exists]
  exact forall_congr' fun body => not_congr unwrap?_eq_some_iff

theorem IsBody.unique {other : String} (h : IsBody expression body) (hother : IsBody expression other) :
    body = other := by
  have hbody := unwrap?_eq_some_iff.mpr h
  rw [unwrap?_eq_some_iff.mpr hother] at hbody
  exact (Option.some.inj hbody).symm

/-! ## Reading -/

theorem ofExpression_of_not_wrapped (h : ¬ ∃ body, IsBody expression body) :
    ofExpression expression = .error (.noWrapper expression) := by
  rw [ofExpression, unwrap?_eq_none_iff.mpr h]

theorem ofExpression_of_not_parsed (h : IsBody expression body) (hparse : parse? body = none) :
    ofExpression expression = .error (.noCondition body) := by
  simp only [ofExpression, unwrap?_eq_some_iff.mpr h, hparse]

theorem ofExpression_of_parsed (h : IsBody expression body) (hparse : parse? body = some c) :
    ofExpression expression = .ok c :=
  ofExpression_eq_ok_iff.mpr ⟨body, unwrap?_eq_some_iff.mpr h, hparse⟩

theorem ofExpression_eq_error_iff : ofExpression expression = .error failure ↔
    (¬ (∃ body, IsBody expression body) ∧ failure = .noWrapper expression) ∨
      ∃ body, IsBody expression body ∧ parse? body = none ∧ failure = .noCondition body := by
  constructor
  · intro h
    by_cases hbody : ∃ body, IsBody expression body
    · obtain ⟨body, hbody⟩ := hbody
      cases hparse : parse? body with
      | none =>
        rw [ofExpression_of_not_parsed hbody hparse] at h
        exact .inr ⟨body, hbody, hparse, (Except.error.inj h).symm⟩
      | some c =>
        rw [ofExpression_of_parsed hbody hparse] at h
        cases h
    · rw [ofExpression_of_not_wrapped hbody] at h
      exact .inl ⟨hbody, (Except.error.inj h).symm⟩
  · rintro (⟨hbody, rfl⟩ | ⟨body, hbody, hparse, rfl⟩)
    · exact ofExpression_of_not_wrapped hbody
    · exact ofExpression_of_not_parsed hbody hparse

theorem refusedAt_wrapper_iff :
    RefusedAt expression .wrapper expression ↔ ¬ ∃ body, IsBody expression body := by
  constructor
  · rintro ⟨failure, hfailure, hstage, -⟩
    rcases ofExpression_eq_error_iff.mp hfailure with ⟨hbody, -⟩ | ⟨body, -, -, rfl⟩
    · exact hbody
    · cases hstage
  · intro h
    exact ⟨_, ofExpression_of_not_wrapped h, rfl, _, rfl⟩

theorem exists_body_of_refusedAt (h : RefusedAt expression .condition text) :
    ∃ body, IsBody expression body ∧ parse? body = none := by
  obtain ⟨failure, hfailure, hstage, -⟩ := h
  rcases ofExpression_eq_error_iff.mp hfailure with ⟨-, rfl⟩ | ⟨body, hbody, hparse, -⟩
  · cases hstage
  · exact ⟨body, hbody, hparse⟩

theorem refusedAt_condition_iff (hbody : IsBody expression body) :
    RefusedAt expression .condition body ↔ parse? body = none := by
  constructor
  · intro h
    obtain ⟨other, hother, hparse⟩ := exists_body_of_refusedAt h
    rwa [hbody.unique hother]
  · intro hparse
    exact ⟨_, ofExpression_of_not_parsed hbody hparse, rfl, _, rfl⟩

/-! ## Solving -/

theorem solve_of_refused (env : Environment) (h : ofExpression expression = .error failure) :
    solve expression env = (false, [refusal expression failure]) := by
  rw [solve, h]

theorem solve_of_read (env : Environment) (h : ofExpression expression = .ok c) :
    solve expression env = (c.evaluate env, []) := by
  rw [solve, h]

/-- How an expression is read and solved. -/
structure TellsStage (expression : String) : Prop where
  unwrap_iff : ∀ body, unwrap? expression = some body ↔ IsBody expression body
  body_unique : ∀ body other, IsBody expression body → IsBody expression other → body = other
  /-- The wrapper is refused exactly if there is no body. -/
  wrapper_iff : RefusedAt expression .wrapper expression ↔ ¬ ∃ body, IsBody expression body
  /-- The condition is refused exactly if there is a body that is no condition. -/
  condition_iff : ∀ body, IsBody expression body →
    (RefusedAt expression .condition body ↔ parse? body = none)
  condition_body : ∀ text, RefusedAt expression .condition text → ∃ body, IsBody expression body
  read_iff : ∀ c, ofExpression expression = .ok c ↔
    ∃ body, IsBody expression body ∧ parse? body = some c
  /-- A refusal makes the expression false and is reported by one event. -/
  solve_refused : ∀ env failure, ofExpression expression = .error failure →
    ∃ event, solve expression env = (false, [event]) ∧ event.level = .trace ∧
      event.fields = [("expression", expression), ("error", failure.message)]
  solve_read : ∀ env c, ofExpression expression = .ok c → solve expression env = (c.evaluate env, [])

/-- Reading reports the stage that fails, and solving fails closed. -/
theorem refusals_tell_stage (expression : String) : TellsStage expression where
  unwrap_iff _ := unwrap?_eq_some_iff
  body_unique _ _ := IsBody.unique
  wrapper_iff := refusedAt_wrapper_iff
  condition_iff _ := refusedAt_condition_iff
  condition_body _ h := by
    obtain ⟨body, hbody, -⟩ := exists_body_of_refusedAt h
    exact ⟨body, hbody⟩
  read_iff c := by
    rw [ofExpression_eq_ok_iff]
    exact exists_congr fun body => and_congr_left' unwrap?_eq_some_iff
  solve_refused env failure h := ⟨refusal expression failure, solve_of_refused env h, rfl, rfl⟩
  solve_read env _ := solve_of_read env

-- The last bracket ends the body, whatever brackets stand in it, and a carriage return is not a line feed.
example : unwrap? "$\x7ba==$\x7bb\x7d\r\x7d\x7d" = some "a==$\x7bb\x7d\r\x7d" := by
  decide

end Condition

end ConfigKit
