-- SUMMARY: Reading classes between brackets, with their operators.
import ConfigKit.Pattern.Syntax.Escape

/-!
# Bracketed classes

`readBracketed` reads a class from after its opening bracket. Classes may be nested, and their parts
combined by `&&`, `--` and `~~`, which bind less than the union of items and group to the left.
-/

namespace ConfigKit

namespace Pattern

/-- A class whose closing bracket is yet to come: the items since the last operator, latest first, and
what stands to the left of that operator. -/
structure OpenClass where
  negated : Bool
  items : List ClassItem
  left : Option (ClassOperation × ClassItem)

namespace OpenClass

def push (c : OpenClass) (item : ClassItem) : OpenClass := { c with items := item :: c.items }

def body (c : OpenClass) : ClassItem :=
  let right := ClassItem.ofItems c.items.reverse
  match c.left with
  | none => right
  | some (operation, left) => .combination operation left right

/-- Puts an operator after what the class holds so far. -/
def operator (c : OpenClass) (operation : ClassOperation) : OpenClass :=
  { c with items := [], left := some (operation, c.body) }

def close (c : OpenClass) : ClassItem := .bracketed c.body c.negated

end OpenClass

/-- The ASCII classes by name. -/
def AsciiClass.ofName? : String → Option AsciiClass
  | "alnum" => some .alnum
  | "alpha" => some .alpha
  | "ascii" => some .ascii
  | "blank" => some .blank
  | "cntrl" => some .cntrl
  | "digit" => some .digit
  | "graph" => some .graph
  | "lower" => some .lower
  | "print" => some .print
  | "punct" => some .punct
  | "space" => some .space
  | "upper" => some .upper
  | "word" => some .word
  | "xdigit" => some .xdigit
  | _ => none

/-- Reads an ASCII class from after its opening bracket, if there is one. -/
def readAscii? (cs : List Char) : Option (ClassItem × List Char) :=
  let named (negated : Bool) (cs : List Char) : Option (ClassItem × List Char) :=
    match cs.dropWhile (· ≠ ':') with
    | ':' :: ']' :: rest =>
      (AsciiClass.ofName? (String.ofList (cs.takeWhile (· ≠ ':')))).map fun kind =>
        (.ascii kind negated, rest)
    | _ => none
  match cs with
  | ':' :: '^' :: rest => named true rest
  | ':' :: rest => named false rest
  | _ => none

/-- Adds the hyphens at the start of a class, which stand for themselves. -/
def readHyphens (verbose : Bool) (c : OpenClass) (cs : List Char) : OpenClass × List Char :=
  let (hyphens, rest) := spanSkipping verbose (· = '-') cs
  (hyphens.foldl (fun c h => c.push (.literal ⟨h, false⟩)) c, rest)

/-- Reads the start of a class, from after its opening bracket: the sign of negation, hyphens, and a
closing bracket that stands for itself because nothing is before it. -/
def openClass (verbose : Bool) (cs : List Char) : OpenClass × List Char :=
  let (c, rest) : OpenClass × List Char :=
    match skip verbose cs with
    | '^' :: rest => readHyphens verbose ⟨true, [], none⟩ (skip verbose rest)
    | rest => readHyphens verbose ⟨false, [], none⟩ rest
  match c.items, rest with
  | [], ']' :: rest => (c.push (.literal ⟨']', false⟩), skip verbose rest)
  | _, rest => (c, rest)

/-- Reads a single character or an escape in a class. -/
def readClassAtom (verbose : Bool) : List Char → Except Fault (Atom × List Char)
  | [] => throw .unclosedClass
  | '\\' :: rest => readEscape verbose rest
  | c :: rest => return (.literal ⟨c, false⟩, rest)

def Atom.classItem : Atom → Except Fault ClassItem
  | .literal l => return .literal l
  | .charClass item => return item
  | .dot => throw .assertionInClass
  | .assertion _ => throw .assertionInClass

/-- Reads an item of a class, which may be a range. A hyphen makes a range unless a closing bracket or
another hyphen follows it. -/
def readClassItem (verbose : Bool) (cs : List Char) : Except Fault (ClassItem × List Char) := do
  let (first, rest) ← readClassAtom verbose cs
  match skip verbose rest with
  | [] => throw .unclosedClass
  | '-' :: rest =>
    if peek verbose rest = some ']' ∨ peek verbose rest = some '-' then
      return (← first.classItem, '-' :: rest)
    let (last, rest) ← readClassAtom verbose (skip verbose rest)
    match first, last with
    | .literal first, .literal last =>
      if first.char ≤ last.char then return (.range first last, rest) else throw .brokenRange
    | _, _ => throw .brokenRange
  | rest => return (← first.classItem, rest)

/-- Reads a class from within. `current` is the innermost open class, and `outer` are the ones around
it. Every step reads at least one character, so that `fuel` need not exceed their number. -/
def readClassFrom (verbose : Bool) : Nat → OpenClass → List OpenClass → List Char →
    Except Fault (ClassItem × List Char)
  | 0, _, _, _ => throw .unclosedClass
  | fuel + 1, current, outer, cs =>
    match skip verbose cs with
    | [] => throw .unclosedClass
    | ']' :: rest =>
      match outer with
      | [] => return (current.close, rest)
      | parent :: outer => readClassFrom verbose fuel (parent.push current.close) outer rest
    | '[' :: rest =>
      match readAscii? rest with
      | some (item, rest) => readClassFrom verbose fuel (current.push item) outer rest
      | none =>
        let (inner, rest) := openClass verbose rest
        readClassFrom verbose fuel inner (current :: outer) rest
    | '&' :: '&' :: rest => readClassFrom verbose fuel (current.operator .intersection) outer rest
    | '-' :: '-' :: rest => readClassFrom verbose fuel (current.operator .difference) outer rest
    | '~' :: '~' :: rest =>
      readClassFrom verbose fuel (current.operator .symmetricDifference) outer rest
    | rest => do
      let (item, rest) ← readClassItem verbose rest
      readClassFrom verbose fuel (current.push item) outer rest

/-- Reads a class from after its opening bracket. -/
def readBracketed (verbose : Bool) (cs : List Char) : Except Fault (ClassItem × List Char) :=
  let (c, rest) := openClass verbose cs
  readClassFrom verbose (cs.length + 1) c [] rest

end Pattern

end ConfigKit
