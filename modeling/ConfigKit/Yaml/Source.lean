-- SUMMARY: The characters of a YAML stream, with its line breaks made one.
import ConfigKit.Text.Utf8

/-!
# The characters of a YAML stream

A YAML stream is UTF-8 text of allowed characters. Line breaks have several spellings; those that mean a
line feed are replaced by one, so that the rest of the reader meets three break characters only: the line
feed, the line separator and the paragraph separator.
-/

namespace ConfigKit

namespace Yaml

/-- Whether a character may stand in a stream. -/
def isAllowed (c : Char) : Bool :=
  let code := c.toNat
  code = 0x09 || code = 0x0A || code = 0x0D || (0x20 ≤ code && code ≤ 0x7E) || code = 0x85
    || (0xA0 ≤ code && code ≤ 0xD7FF) || (0xE000 ≤ code && code ≤ 0xFFFD) || 0x10000 ≤ code

/-- Puts a line feed for a carriage return, alone or with a line feed, and for a next-line character. -/
def unifyBreaks : List Char → List Char
  | [] => []
  | '\r' :: '\n' :: cs => '\n' :: unifyBreaks cs
  | c :: cs => (if c = '\r' ∨ c = '\x85' then '\n' else c) :: unifyBreaks cs

/-- The characters of a stream, unless its bytes are no allowed text. -/
def characters? (bytes : Bytes) : Option (List Char) :=
  match Utf8.decode? bytes with
  | none => none
  | some cs => if cs.all isAllowed then some (unifyBreaks cs) else none

/-! ## Character classes -/

/-- A line break. -/
def isBreak (c : Char) : Bool := c = '\n' || c = '\u2028' || c = '\u2029'

/-- A space or a tabulator. -/
def isGap (c : Char) : Bool := c = ' ' || c = '\t'

def isWord (c : Char) : Bool := c.isAlphanum || c = '_' || c = '-'

def isFlowIndicator (c : Char) : Bool := c = ',' || c = '[' || c = ']' || c = '\x7b' || c = '\x7d'

/-- Whether a word ends here: before a gap, before a break, or at the end. -/
def endsWord : List Char → Bool
  | [] => true
  | c :: _ => isGap c || isBreak c

/-- Whether a line starts with three equal characters that mark the start or the end of a document. -/
def atDocumentMark : List Char → Bool
  | a :: b :: c :: rest => (a = '-' || a = '.') && b = a && c = a && endsWord rest
  | _ => false

/-! ## Places -/

/-- A place in a stream: how many characters come before it, the line, and the characters before it on
that line. -/
structure Mark where
  index : Nat
  line : Nat
  column : Nat

namespace Mark

/-- The place after so many characters of a line. -/
def advance (mark : Mark) (count : Nat) : Mark :=
  { mark with index := mark.index + count, column := mark.column + count }

/-- The place after a character that is no break. -/
def next (mark : Mark) : Mark := mark.advance 1

/-- The place after a break. -/
def nextLine (mark : Mark) : Mark :=
  ⟨mark.index + 1, mark.line + 1, 0⟩

end Mark

end Yaml

end ConfigKit
