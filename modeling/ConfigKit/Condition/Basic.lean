-- SUMMARY: Conditions and expressions, their written form, and the readers of both.
import ConfigKit.Text.Blank

/-!
# Conditions

A condition compares a left operand with a literal text. The left operand is a literal too, or the name
of a variable of the environment. Written, a condition is the operand, `==` or `!=`, and the text; a
variable has `env.` before its name. Blanks may stand around each of the three.

An expression is a condition between `${` and `}`.
-/

namespace ConfigKit

/-- The left side of a condition. -/
inductive Operand where
  /-- A text that stands for itself. -/
  | literal (text : String)
  /-- The name of a variable of the environment. -/
  | env (name : String)
  deriving DecidableEq

/-- How the two sides are compared. -/
inductive Comparison where
  | equal
  | notEqual
  deriving DecidableEq

/-- A comparison of an operand with a text. -/
structure Condition where
  left : Operand
  comparison : Comparison
  right : String
  deriving DecidableEq

def Comparison.text : Comparison → String
  | .equal => "=="
  | .notEqual => "!="

def Operand.text : Operand → String
  | .literal text => text
  | .env name => "env." ++ name

namespace Condition

/-- The written form of a condition. -/
def text (c : Condition) : String :=
  c.left.text ++ c.comparison.text ++ c.right

/-! ## Reading a condition -/

def isNameStart (c : Char) : Bool := c.isAlpha || c = '_'

def isNameRest (c : Char) : Bool := c.isAlphanum || c = '_'

/-- Whether the text is a name: ASCII letters, digits and underscores, and no digit at the start. -/
def isName : List Char → Bool
  | [] => false
  | c :: cs => isNameStart c && cs.all isNameRest

/-- Reads `env.` if it is there, and tells whether it was. -/
def readPrefix : List Char → Bool × List Char
  | 'e' :: 'n' :: 'v' :: '.' :: rest => (true, rest)
  | cs => (false, cs)

def readComparison? : List Char → Option (Comparison × List Char)
  | '=' :: '=' :: rest => some (.equal, rest)
  | '!' :: '=' :: rest => some (.notEqual, rest)
  | _ => none

/-- The left operand for a name with or without prefix. -/
def operand (isEnv : Bool) (name : String) : Operand :=
  if isEnv then .env name else .literal name

/-- Reads a condition: `^\s*(env\.)?([A-Za-z_][A-Za-z0-9_]*)\s*(==|!=)\s*(\S*)\s*$`, whose four groups are
the prefix, the name, the comparison and the text. -/
def ofChars? (cs : List Char) : Option Condition := do
  let (isEnv, cs) := readPrefix (cs.dropWhile Char.isBlank)
  let name := cs.takeWhile isNameRest
  guard (isName name)
  let (comparison, cs) ← readComparison? ((cs.dropWhile isNameRest).dropWhile Char.isBlank)
  let cs := cs.dropWhile Char.isBlank
  let right := cs.takeWhile fun c => !c.isBlank
  guard ((cs.dropWhile fun c => !c.isBlank).all Char.isBlank)
  some ⟨operand isEnv (String.ofList name), comparison, String.ofList right⟩

def parse? (body : String) : Option Condition :=
  ofChars? body.toList

/-- The characters between the wrapper's brackets, one or more and no line feed: the group of
`^\$\{(.+)\}$`. -/
def unwrapChars? : List Char → Option (List Char)
  | '$' :: '\x7b' :: rest =>
    if rest.getLast? = some '\x7d' ∧ 1 < rest.length ∧ '\n' ∉ rest then some rest.dropLast else none
  | _ => none

/-- The body of an expression, if the text is one. -/
def unwrap? (expression : String) : Option String :=
  (unwrapChars? expression.toList).map String.ofList

end Condition

end ConfigKit
