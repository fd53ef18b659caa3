-- SUMMARY: Reading the text of a pattern in one pass, with a stack of open groups.
import ConfigKit.Pattern.Syntax.Bracket
import ConfigKit.Pattern.Syntax.Group

/-!
# Reading patterns

`Syntax.ofText?` reads the text of a pattern. It goes through the text once, with a stack of the groups
that are open.
-/

namespace ConfigKit

namespace Pattern

/-- A group whose closing parenthesis is yet to come: the finished branches and the items of the branch
at hand, both latest first. `verbose` tells whether blanks and comments are skipped in it. -/
structure OpenGroup where
  kind : GroupKind
  verbose : Bool
  branches : List Syntax
  items : List Syntax

namespace OpenGroup

def push (g : OpenGroup) (item : Syntax) : OpenGroup := { g with items := item :: g.items }

/-- Ends the branch at hand. -/
def endBranch (g : OpenGroup) : OpenGroup :=
  { g with branches := Syntax.ofItems g.items.reverse :: g.branches, items := [] }

def body (g : OpenGroup) : Syntax := Syntax.ofBranches g.endBranch.branches.reverse

/-- Whether blanks and comments are skipped after a change of flags. -/
def verboseAfter (flags : FlagChange) (before : Bool) : Bool :=
  ((flags.find? (·.1 = .verbose)).map (·.2)).getD before

def change (g : OpenGroup) (flags : FlagChange) : OpenGroup :=
  { g.push (.change flags) with verbose := verboseAfter flags g.verbose }

/-- Opens a group inside another one. -/
def inside (g : OpenGroup) (kind : GroupKind) : OpenGroup :=
  match kind with
  | .capture _ => ⟨kind, g.verbose, [], []⟩
  | .change flags => ⟨kind, verboseAfter flags g.verbose, [], []⟩

def repeatLast (g : OpenGroup) (bounds : Bounds) (greedy : Bool) : Except Fault OpenGroup :=
  match g.items with
  | [] => throw .nothingToRepeat
  | .empty :: _ => throw .nothingToRepeat
  | .change _ :: _ => throw .nothingToRepeat
  | item :: items => return { g with items := .repetition bounds greedy item :: items }

end OpenGroup

/-- Where reading stands: the innermost open group, the ones around it, how many groups capture so far,
and their names. -/
structure Reading where
  current : OpenGroup
  outer : List OpenGroup
  captures : Nat
  names : List String

namespace Reading

def push (r : Reading) (item : Syntax) : Reading := { r with current := r.current.push item }

/-- Goes on after an opening parenthesis. -/
def opening (r : Reading) : Opening → Except Fault Reading
  | .change flags => return { r with current := r.current.change flags }
  | .group kind name => do
    if let some name := name then
      if r.names.contains name then throw (.repeatedName name)
    let captures := match kind with
      | .capture index => index
      | .change _ => r.captures
    return ⟨r.current.inside kind, r.current :: r.outer, captures, name.toList ++ r.names⟩

/-- Closes the innermost group. -/
def close (r : Reading) : Except Fault Reading :=
  match r.outer with
  | [] => throw .unbalancedGroup
  | parent :: outer =>
    return { r with current := parent.push (.group r.current.kind r.current.body), outer := outer }

/-- Repeats the last item, lazily if a question mark follows. -/
def repeated (r : Reading) (bounds : Bounds) (rest : List Char) :
    Except Fault (Reading × List Char) := do
  match rest with
  | '?' :: rest => return ({ r with current := ← r.current.repeatLast bounds false }, rest)
  | rest => return ({ r with current := ← r.current.repeatLast bounds true }, rest)

end Reading

def Atom.toSyntax : Atom → Syntax
  | .literal l => .literal l
  | .dot => .dot
  | .assertion a => .assertion a
  | .charClass item => .charClass item

/-- Reads the item or the sign that `c` begins. -/
def readItem (r : Reading) (c : Char) (rest : List Char) : Except Fault (Reading × List Char) := do
  let verbose := r.current.verbose
  match c with
  | '(' =>
    let (opening, rest) ← readOpening verbose (r.captures + 1) rest
    return (← r.opening opening, rest)
  | ')' => return (← r.close, rest)
  | '|' => return ({ r with current := r.current.endBranch }, rest)
  | '[' =>
    let (item, rest) ← readBracketed verbose rest
    return (r.push (.charClass item), rest)
  | '?' => r.repeated ⟨0, some 1⟩ rest
  | '*' => r.repeated ⟨0, none⟩ rest
  | '+' => r.repeated ⟨1, none⟩ rest
  | '\x7b' =>
    let (bounds, rest) ← readBounds verbose rest
    r.repeated bounds (skip verbose rest)
  | '\\' =>
    let (atom, rest) ← readEscape verbose rest
    return (r.push atom.toSyntax, rest)
  | '.' => return (r.push .dot, rest)
  | '^' => return (r.push (.assertion .lineStart), rest)
  | '$' => return (r.push (.assertion .lineEnd), rest)
  | c => return (r.push (.literal ⟨c, false⟩), rest)

/-- Reads all items. Every step reads at least one character, so that `fuel` need not exceed their
number. -/
def readItems : Nat → Reading → List Char → Except Fault Reading
  | 0, r, _ => return r
  | fuel + 1, r, cs =>
    match skip r.current.verbose cs with
    | [] => return r
    | c :: rest => do
      let (r, rest) ← readItem r c rest
      readItems fuel r rest

/-- Reads the text of a pattern. -/
def Syntax.ofText? (text : String) : Except Fault Syntax := do
  let cs := text.toList
  let r ← readItems cs.length ⟨⟨.change [], false, [], []⟩, [], 0, []⟩ cs
  if ¬ r.outer.isEmpty then throw .unbalancedGroup
  if r.current.body.depth > depthLimit then throw .tooDeep
  return r.current.body

end Pattern

end ConfigKit
