-- SUMMARY: Patterns as texts that compile, and searching with them.
import ConfigKit.Pattern.Expression.OfSyntax
import ConfigKit.Pattern.Program.Size
import ConfigKit.Pattern.Search
import ConfigKit.Pattern.Syntax.OfText

/-!
# Patterns

A `Pattern` is a text that has been found to be a regular expression. The text determines everything
else, so that patterns are equal when their texts are: `Pattern.ext_iff`. `Pattern.compile` checks a
text, and `captures?`, `isMatch` and `count` search with a pattern.
-/

namespace ConfigKit

namespace Pattern

/-- What a text matches as a pattern. -/
def expressionOf (text : String) : Except Fault Expression := do
  let (e, _) ← Expression.ofSyntax Flags.initial (← Syntax.ofText? text)
  if e.isTooLarge then throw .tooLarge
  return e

end Pattern

/-- A text that is a pattern, and what it matches. -/
structure Pattern where
  text : String
  expression : Pattern.Expression
  expression_eq : Pattern.expressionOf text = .ok expression

namespace Pattern

/-- Patterns with the same text are the same. -/
theorem ext {p q : Pattern} (h : p.text = q.text) : p = q := by
  obtain ⟨text, e, hp⟩ := p
  obtain ⟨text', e', hq⟩ := q
  obtain rfl : text = text' := h
  obtain rfl : e = e' := by simpa [hp] using hq
  rfl

theorem ext_iff {p q : Pattern} : p = q ↔ p.text = q.text :=
  ⟨fun h => h ▸ rfl, ext⟩

instance : DecidableEq Pattern := fun _ _ => decidable_of_iff' _ ext_iff

def compile (text : String) : Except Fault Pattern :=
  match h : expressionOf text with
  | .ok e => .ok ⟨text, e, h⟩
  | .error fault => .error fault

/-- A text compiles to the pattern with that text, if it is a pattern at all. -/
theorem compile_eq_ok_iff {text : String} {p : Pattern} : compile text = .ok p ↔ p.text = text := by
  obtain ⟨text', e, h'⟩ := p
  unfold compile
  split
  case h_1 e' h =>
    rw [Except.ok.injEq, ext_iff]
    exact eq_comm
  case h_2 fault h =>
    constructor
    · intro heq
      cases heq
    · intro heq
      obtain rfl : text' = text := heq
      cases h'.symm.trans h

def program (p : Pattern) : Program := .ofExpression p.expression

/-- The number of bytes before each place of a text. -/
def byteOffsets (text : Haystack) : Array Nat :=
  text.foldl (fun offsets c => offsets.push (offsets.back?.getD 0 + c.utf8Size)) #[0]

/-- The parts of a text that the groups of its first match have matched, the whole match first. They are
given by the numbers of the bytes before their ends. -/
def captures? (p : Pattern) (text : String) : Option (List (Option (Nat × Nat))) :=
  let haystack : Haystack := text.toList.toArray
  let program := p.program
  let offsets := byteOffsets haystack
  let offset (place : Nat) : Nat := offsets[place]?.getD 0
  (program.search haystack 0).map fun slots =>
    (List.range program.groups).map fun index =>
      (Program.group slots index).map fun (first, last) => (offset first, offset last)

def isMatch (p : Pattern) (text : String) : Bool := (p.captures? text).isSome

/-- How many matches without overlap a text has. -/
def count (p : Pattern) (text : String) : Nat := (p.program.searchAll text.toList.toArray).length

end Pattern

end ConfigKit
