-- SUMMARY: The truth value of an expression in an environment, with the event for a text that cannot be read.
import ConfigKit.Condition.Basic
import ConfigKit.Condition.Environment
import ConfigKit.Event
import ConfigKit.Failure

/-!
# Solving expressions

An expression that reads as a condition has the truth value of that condition in an environment; a
variable that is absent counts as empty. Any other text is false, and one event says why.
-/

namespace ConfigKit

namespace Condition

/-- The text of the left side in an environment. -/
def leftText (c : Condition) (env : Environment) : String :=
  match c.left with
  | .literal text => text
  | .env name => (env name).getD ""

/-- The truth value of a condition in an environment. -/
def evaluate (c : Condition) (env : Environment) : Bool :=
  match c.comparison with
  | .equal => c.leftText env == c.right
  | .notEqual => c.leftText env != c.right

/-- Reads an expression. A failure tells whether the wrapper or the condition in it is missing. -/
def ofExpression (expression : String) : Except Failure Condition :=
  match unwrap? expression with
  | none => .error (.noWrapper expression)
  | some body =>
    match parse? body with
    | none => .error (.noCondition body)
    | some c => .ok c

/-- The event for an expression that does not read as a condition. -/
def refusal (expression : String) (failure : Failure) : Event where
  level := .trace
  message := "expression does not parse, treating as false"
  fields := [("expression", expression), ("error", failure.message)]

/-- The truth value of an expression in an environment, and the events on the way. -/
def solve (expression : String) (env : Environment) : Bool × List Event :=
  match ofExpression expression with
  | .ok c => (c.evaluate env, [])
  | .error failure => (false, [refusal expression failure])

end Condition

end ConfigKit
