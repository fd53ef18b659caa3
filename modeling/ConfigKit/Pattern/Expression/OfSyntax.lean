-- SUMMARY: The expression of a written pattern, with changes of flags applied where they hold.
import ConfigKit.Pattern.Expression
import ConfigKit.Pattern.Expression.CharSet

/-!
# Expressions from their syntax

`Expression.ofSyntax` applies the flags of a pattern to its parts. A change of flags holds from where it
stands to the end of the group around it, in all branches that follow.
-/

namespace ConfigKit

namespace Pattern

namespace Expression

/-- A literal. Where case does not count it stands for all characters that differ in case only. -/
def ofLiteral (flags : Flags) (l : Literal) : Except Fault Expression :=
  if flags.has .unicode then return .char (foldIn flags (.singleton l.char))
  else if l.isByte ∧ 0x7F < l.char.toNat then throw .needsUnicode
  else return .char (foldIn flags (.singleton l.char))

/-- The dot: every character, but for line ends unless a flag lets it match them as well. -/
def dot (flags : Flags) : Except Fault Expression :=
  if ¬ flags.has .unicode then throw .needsUnicode
  else if flags.has .dotMatchesNewline then return .char .all
  else if flags.has .crlf then return .char (CodeRanges.ofChars ['\n', '\r']).complement
  else return .char (CodeRanges.ofChars ['\n']).complement

/-- An assertion. The ends of lines are those of the text, unless lines are told apart. -/
def ofAssertion (flags : Flags) : Assertion → Expression
  | .lineStart => .look (if flags.has .multiLine then .lineStart (flags.has .crlf) else .textStart)
  | .lineEnd => .look (if flags.has .multiLine then .lineEnd (flags.has .crlf) else .textEnd)
  | .textStart => .look .textStart
  | .textEnd => .look .textEnd
  | .word edge => .look (.word edge (!flags.has .unicode))

def flagsInside (flags : Flags) : GroupKind → Flags
  | .capture _ => flags
  | .change change => flags.after change

def grouped (body : Expression) : GroupKind → Expression
  | .capture index => .capture index body
  | .change _ => body

mutual

/-- What a pattern matches, and the flags after it. -/
def ofSyntax (flags : Flags) : Syntax → Except Fault (Expression × Flags)
  | .empty => return (.empty, flags)
  | .change change => return (.empty, flags.after change)
  | .literal l => return (← ofLiteral flags l, flags)
  | .dot => return (← dot flags, flags)
  | .assertion a => return (ofAssertion flags a, flags)
  | .charClass item => return (.char (← item.members flags), flags)
  | .repetition bounds greedy body => do
    let (body, _) ← ofSyntax flags body
    return (repeated bounds (greedy != flags.has .swapGreed) body, flags)
  | .group kind body => do
    let (body, _) ← ofSyntax (flagsInside flags kind) body
    return (grouped body kind, flags)
  | .sequence items => do
    let (items, flags) ← ofSyntaxes flags items
    return (inOrder items, flags)
  | .alternation items => do
    let (items, flags) ← ofSyntaxes flags items
    return (anyOf items, flags)

/-- What several patterns match, each under the flags that the one before leaves. -/
def ofSyntaxes (flags : Flags) : List Syntax → Except Fault (List Expression × Flags)
  | [] => return ([], flags)
  | item :: items => do
    let (item, flags) ← ofSyntax flags item
    let (items, flags) ← ofSyntaxes flags items
    return (item :: items, flags)

end

end Expression

end Pattern

end ConfigKit
