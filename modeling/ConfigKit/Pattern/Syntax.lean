-- SUMMARY: Patterns as they are written, before their flags are applied.
/-!
# The syntax of patterns

A pattern as it is written, before its flags are applied: `Syntax` for patterns, and `ClassItem` for what
stands between brackets. `Syntax.depth` measures how deeply the parts of a pattern are nested.
-/

namespace ConfigKit

namespace Pattern

/-- A character in a pattern. `isByte` tells that it was written as two hexadecimal digits, which name a
byte where Unicode is off. -/
structure Literal where
  char : Char
  isByte : Bool
  deriving DecidableEq

/-- The classes that are written as a backslash and a letter. -/
inductive Shorthand where
  | digit
  | space
  | word
  deriving DecidableEq

/-- The classes of ASCII characters that go by a name between `[:` and `:]`. -/
inductive AsciiClass where
  | alnum
  | alpha
  | ascii
  | blank
  | cntrl
  | digit
  | graph
  | lower
  | print
  | punct
  | space
  | upper
  | word
  | xdigit
  deriving DecidableEq

/-- A set of characters by name: the name of the set, or a property and its value. -/
inductive SetName where
  | single (name : String)
  | withValue (property value : String)
  deriving DecidableEq

/-- How two classes are combined. -/
inductive ClassOperation where
  | intersection
  | difference
  | symmetricDifference
  deriving DecidableEq

/-- A class of characters, or a part of one. -/
inductive ClassItem where
  | empty
  | literal (literal : Literal)
  | range (first last : Literal)
  | ascii (kind : AsciiClass) (negated : Bool)
  | named (name : SetName) (negated : Bool)
  | shorthand (kind : Shorthand) (negated : Bool)
  | bracketed (body : ClassItem) (negated : Bool)
  | union (items : List ClassItem)
  | combination (operation : ClassOperation) (left right : ClassItem)

/-- What a word boundary asks of the characters around it. -/
inductive WordEdge where
  /-- A word starts or ends. -/
  | boundary
  /-- No word starts or ends. -/
  | inner
  /-- A word starts. -/
  | start
  /-- A word ends. -/
  | finish
  /-- No word goes on from before. -/
  | startHalf
  /-- No word goes on afterwards. -/
  | finishHalf
  deriving DecidableEq

/-- A condition on a place in the text. -/
inductive Assertion where
  | lineStart
  | lineEnd
  | textStart
  | textEnd
  | word (edge : WordEdge)
  deriving DecidableEq

/-- A switch for how a pattern is read. -/
inductive Flag where
  | ignoreCase
  | multiLine
  | dotMatchesNewline
  | swapGreed
  | unicode
  | crlf
  | verbose
  deriving DecidableEq

/-- The flags that a pattern turns on or off, without repetition. -/
abbrev FlagChange := List (Flag × Bool)

/-- What the parentheses of a group do. -/
inductive GroupKind where
  | capture (index : Nat)
  | change (flags : FlagChange)

/-- How often something is repeated. No upper bound means any number of times. -/
structure Bounds where
  least : Nat
  most : Option Nat
  deriving DecidableEq

/-- A pattern as it is written. -/
inductive Syntax where
  | empty
  | change (flags : FlagChange)
  | literal (literal : Literal)
  | dot
  | assertion (assertion : Assertion)
  | charClass (item : ClassItem)
  | repetition (bounds : Bounds) (greedy : Bool) (body : Syntax)
  | group (kind : GroupKind) (body : Syntax)
  | sequence (items : List Syntax)
  | alternation (branches : List Syntax)

/-- The union of the items of a class. A single item stands for itself. -/
def ClassItem.ofItems : List ClassItem → ClassItem
  | [] => .empty
  | [item] => item
  | items => .union items

/-- The items of a pattern in sequence. A single item stands for itself. -/
def Syntax.ofItems : List Syntax → Syntax
  | [] => .empty
  | [item] => item
  | items => .sequence items

/-- The branches of a pattern. A single branch stands for itself. -/
def Syntax.ofBranches : List Syntax → Syntax
  | [] => .empty
  | [branch] => branch
  | branches => .alternation branches

mutual

def ClassItem.depth : ClassItem → Nat
  | .bracketed body _ => body.depth + 1
  | .union items => ClassItem.maxDepth items + 1
  | .combination _ left right => max left.depth right.depth + 1
  | _ => 0

def ClassItem.maxDepth : List ClassItem → Nat
  | [] => 0
  | item :: items => max item.depth (ClassItem.maxDepth items)

end

mutual

def Syntax.depth : Syntax → Nat
  | .charClass item => item.depth
  | .repetition _ _ body => body.depth + 1
  | .group _ body => body.depth + 1
  | .sequence items => Syntax.maxDepth items + 1
  | .alternation branches => Syntax.maxDepth branches + 1
  | _ => 0

def Syntax.maxDepth : List Syntax → Nat
  | [] => 0
  | item :: items => max item.depth (Syntax.maxDepth items)

end

/-- The largest depth that a pattern may have. -/
def depthLimit : Nat := 250

end Pattern

end ConfigKit
