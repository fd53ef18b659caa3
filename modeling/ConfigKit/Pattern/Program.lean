-- SUMMARY: Programs of instructions with choices, and the program of an expression.
import ConfigKit.Pattern.Expression

/-!
# Programs

A `Program` is a list of instructions that tries to match a pattern at a place in a text, as a machine
with choices: `fork` goes on with its first instruction, and with its second one only where the first
does not lead to a match. `Program.ofExpression` gives the program of an expression.
-/

namespace ConfigKit

namespace Pattern

/-- An instruction, with the numbers of the instructions that may follow it. -/
inductive Instruction where
  | accept
  | char (set : CodeRanges) (next : Nat)
  | look (condition : Look) (next : Nat)
  | save (slot next : Nat)
  | fork (preferred other : Nat)

/-- The instructions of a pattern, the number of the first one, and how many groups a match has. The
whole match counts as a group. -/
structure Program where
  code : Array Instruction
  start : Nat
  groups : Nat

namespace Program

/-- Instructions, and the number of the one to begin with. -/
abbrev Fragment := Array Instruction × Nat

/-- Adds an instruction to begin with. -/
def push (code : Array Instruction) (instruction : Instruction) : Fragment :=
  let place := code.size
  (code.push instruction, place)

/-- A choice between going through a repeated part, from `body` on, and going past it. -/
def loopFork (greedy : Bool) (body next : Nat) : Instruction :=
  if greedy then .fork body next else .fork next body

/-- Applies a function that adds instructions `n` times. -/
def times (add : Fragment → Fragment) : Nat → Fragment → Fragment
  | 0, fragment => fragment
  | n + 1, fragment => times add n (add fragment)

/-- Adds the instructions of an expression in front of the instruction `next`.

A loop over something that may match the empty text is entered before its choice is offered, so that the
choices keep their order. -/
def add : Expression → Fragment → Fragment
  | .empty, fragment => fragment
  | .char set, (code, next) => push code (.char set next)
  | .look condition, (code, next) => push code (.look condition next)
  | .capture index body, (code, next) =>
    let (code, first) := add body (push code (.save (2 * index + 1) next))
    push code (.save (2 * index) first)
  | .sequence first rest, fragment => add first (add rest fragment)
  | .choice first rest, (code, next) =>
    let (code, other) := add rest (code, next)
    let (code, preferred) := add first (code, next)
    push code (.fork preferred other)
  | .repetition least none greedy body, (code, next) =>
    let loop := code.size
    let (code, first) := add body (code.push .accept, loop)
    let code := code.setIfInBounds loop (loopFork greedy first next)
    match least with
    | 0 => if body.isProductive then (code, loop) else push code (loopFork greedy first next)
    | more + 1 => times (add body) more (code, first)
  | .repetition least (some most) greedy body, (code, next) =>
    let optional : Fragment → Fragment := fun fragment =>
      let (code, first) := add body fragment
      push code (loopFork greedy first next)
    times (add body) least (times optional (most - least) (code, next))

def ofExpression (e : Expression) : Program :=
  let (code, start) := add (.capture 0 e) (#[.accept], 0)
  ⟨code, start, e.lastCapture + 1⟩

end Program

end Pattern

end ConfigKit
