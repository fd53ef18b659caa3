-- SUMMARY: How much memory the program of an expression would take, reckoned without building it.
import ConfigKit.Pattern.Expression
import ConfigKit.Text.Utf8.Ranges

/-!
# The size of programs

How much memory the program of an expression takes as a machine over bytes. The size is reckoned without
building the program, so that a pattern whose program would be too large is refused early.
-/

namespace ConfigKit

namespace Pattern

namespace Expression

def instructionSize : Nat := 32

/-- The size of an instruction that has a choice between two others. -/
def forkSize : Nat := instructionSize + 8

/-- The size for a set of characters. A single character takes an instruction for each of its bytes, a
set of ASCII characters takes two, and any other set one for each beginning of its products. -/
def charSize (set : CodeRanges) : Nat :=
  match set.toList with
  | [(first, last)] =>
    if first = last then instructionSize * (Utf8.bytesOf first).length else ofSet
  | _ => ofSet
where
  ofSet : Nat :=
    if set.isAscii then 2 * instructionSize + 8 * set.ranges.size
    else
      let products := Utf8.products set
      instructionSize * (Utf8.countNodes products + 2) + 4 * products.length

def size : Expression → Nat
  | .empty => instructionSize
  | .char set => charSize set
  | .look _ => instructionSize
  | .capture _ body => body.size + 2 * instructionSize
  | .sequence first rest => first.size + rest.size
  | .choice first (.choice second rest) => first.size + (Expression.choice second rest).size + 4
  | .choice first rest => first.size + rest.size + 2 * instructionSize + 8
  | .repetition least none _ body =>
    if least = 0 then
      if body.isProductive then body.size + forkSize
      else body.size + 2 * forkSize + instructionSize
    else least * body.size + forkSize
  | .repetition least (some most) _ body =>
    most * body.size + (most - least) * forkSize + 2 * instructionSize

def sizeLimit : Nat := 10 * 1024 * 1024

/-- The size of what every program has besides its expression. -/
def frameSize : Nat := 208

def isTooLarge (e : Expression) : Bool := e.size + frameSize > sizeLimit

end Expression

end Pattern

end ConfigKit
