-- SUMMARY: What a pattern matches once its flags are applied, built in a simple form.
import ConfigKit.Pattern.Syntax
import ConfigKit.Text.CodeRanges.Algebra

/-!
# What patterns match

An `Expression` says what a pattern matches once its flags are applied. The functions here build
expressions in a simple form: sequences and choices are not nested into themselves, a choice between
single characters is one set, and what all branches of a choice begin with is taken out of it.
-/

namespace ConfigKit

namespace Pattern

/-- A condition on a place in the text. A line ends at a line feed, or with `crlf` at a carriage return,
a line feed or both together. A word consists of word characters, or of those among them that are
ASCII. -/
inductive Look where
  | textStart
  | textEnd
  | lineStart (crlf : Bool)
  | lineEnd (crlf : Bool)
  | word (edge : WordEdge) (ascii : Bool)
  deriving DecidableEq

/-- What a pattern matches. A choice prefers its first branch. -/
inductive Expression where
  | empty
  | char (set : CodeRanges)
  | look (condition : Look)
  | capture (index : Nat) (body : Expression)
  | repetition (least : Nat) (most : Option Nat) (greedy : Bool) (body : Expression)
  | sequence (first rest : Expression)
  | choice (first rest : Expression)
  deriving DecidableEq

namespace Expression

/-- Whether every match is empty. -/
def isWidthless : Expression → Bool
  | .empty => true
  | .char _ => false
  | .look _ => true
  | .capture _ body => body.isWidthless
  | .repetition _ _ _ body => body.isWidthless
  | .sequence first rest => first.isWidthless && rest.isWidthless
  | .choice first rest => first.isWidthless && rest.isWidthless

/-- Whether no match is empty, as far as the form of the expression tells. A set without a member counts
as a set that may match nothing. -/
def isProductive : Expression → Bool
  | .empty => false
  | .char set => !set.ranges.isEmpty
  | .look _ => false
  | .capture _ body => body.isProductive
  | .repetition least _ _ body => least != 0 && body.isProductive
  | .sequence first rest => first.isProductive || rest.isProductive
  | .choice first rest => first.isProductive && rest.isProductive

/-- The number of the last group that captures, or zero. -/
def lastCapture : Expression → Nat
  | .empty => 0
  | .char _ => 0
  | .look _ => 0
  | .capture index body => max index body.lastCapture
  | .repetition _ _ _ body => body.lastCapture
  | .sequence first rest => max first.lastCapture rest.lastCapture
  | .choice first rest => max first.lastCapture rest.lastCapture

def items : Expression → List Expression
  | .empty => []
  | .sequence first rest => first :: rest.items
  | e => [e]

def branches : Expression → List Expression
  | .choice first rest => first :: rest.branches
  | e => [e]

/-- The sequence of items that are no sequences. -/
def ofItems : List Expression → Expression
  | [] => .empty
  | [item] => item
  | item :: items => .sequence item (ofItems items)

/-- The choice between branches that are no choices. -/
def ofBranches : List Expression → Expression
  | [] => .char .empty
  | [branch] => branch
  | branch :: branches => .choice branch (ofBranches branches)

/-- One expression after the other. -/
def inOrder (parts : List Expression) : Expression := ofItems (parts.flatMap items)

/-- The sets of characters in a list, if it holds nothing else. -/
def charSets? : List Expression → Option (List CodeRanges)
  | [] => some []
  | .char set :: rest => (charSets? rest).map (set :: ·)
  | _ :: _ => none

/-- A choice between expressions, as one set if all of them are sets. -/
def oneOf (parts : List Expression) : Expression :=
  let parts := parts.flatMap branches
  match parts, charSets? parts with
  | [part], _ => part
  | _, some sets => .char (.unions sets)
  | _, none => ofBranches parts

/-- What two lists begin with. -/
def commonStart : List Expression → List Expression → List Expression
  | a :: as, b :: bs => if a = b then a :: commonStart as bs else []
  | _, _ => []

/-- What all branches begin with, if each of them is a sequence. -/
def sharedStart : List Expression → List Expression
  | [] => []
  | first :: rest =>
    if (first :: rest).all (2 ≤ ·.items.length) then
      rest.foldl (fun start branch => commonStart start branch.items) first.items
    else []

/-- A choice between expressions. What all branches begin with is taken out, so that it is matched
before the choice is made: of `.*b|.*c` the longest start that either `b` or `c` can follow. -/
def anyOf (parts : List Expression) : Expression :=
  let parts := parts.flatMap branches
  let start := sharedStart parts
  if parts.length < 2 ∨ start.isEmpty then oneOf parts
  else
    let ends := parts.map fun part => ofItems (part.items.drop start.length)
    inOrder (start ++ [oneOf ends])

/-- A repetition. What matches only the empty text need not be repeated, and what is repeated no time at
all is empty, together with the groups in it. -/
def repeated (bounds : Bounds) (greedy : Bool) (body : Expression) : Expression :=
  let bounds : Bounds :=
    if body.isWidthless then ⟨min bounds.least 1, some (min (bounds.most.getD 1) 1)⟩ else bounds
  if bounds = ⟨0, some 0⟩ then .empty
  else if bounds = ⟨1, some 1⟩ then body
  else .repetition bounds.least bounds.most greedy body

end Expression

end Pattern

end ConfigKit
