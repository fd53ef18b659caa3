-- SUMMARY: The styles of a scalar that is written, and which of them a text allows.
import ConfigKit.Yaml.Meaning
import ConfigKit.Yaml.Source

/-!
# Writing scalars

A text is written plain if it reads back as itself there, and otherwise between quotes or, if it has line
feeds, as a literal block. What stands in the way of each form is found by one pass over the text.
-/

namespace ConfigKit

namespace Yaml

/-! ## Traits of a text -/

/-- Whether a character is written as itself. -/
def isPrintable (c : Char) : Bool :=
  let code := c.toNat
  code = 0x0A || (0x20 ≤ code && code ≤ 0x7E) || (0xA0 ≤ code && code ≤ 0xD7FF)
    || (0xE000 ≤ code && code ≤ 0xFFFD && code ≠ 0xFEFF) || 0x10000 ≤ code

/-- A break or the next-line character. -/
def isAnyBreak (c : Char) : Bool := isBreak c || c = '\r' || c = '\x85'

def isSpaceOrBreak (c : Char) : Bool := isGap c || isAnyBreak c

/-- Whether the text starts with an indicator, so that it cannot be plain. -/
def startsWithIndicator : List Char → Bool
  | [] => false
  | c :: rest =>
    "#,[]\x7b\x7d&*!|>'\"%@`".toList.contains c
      || ((c = '?' || c = ':' || c = '-') && (rest.head?.all isSpaceOrBreak))
      || ['-', '-', '-'].isPrefixOf (c :: rest) || ['.', '.', '.'].isPrefixOf (c :: rest)

/-- Whether a colon ends a word, or a number sign starts one, behind the first character. -/
def hasIndicatorInside : List Char → Bool
  | [] => false
  | [_] => false
  | before :: c :: rest =>
    (c = ':' && rest.head?.all isSpaceOrBreak) || (c = '#' && isSpaceOrBreak before)
      || hasIndicatorInside (c :: rest)

/-- Whether two characters of these kinds stand next to each other. -/
def hasPair (first second : Char → Bool) : List Char → Bool
  | [] => false
  | [_] => false
  | a :: b :: rest => (first a && second b) || hasPair first second (b :: rest)

def isSpace (c : Char) : Bool := c = ' '

/-- Whether a text can be quoted or written in a block without escapes: all of it is printable, and no
space stands before a break. -/
def isEscapeFree (cs : List Char) : Bool :=
  cs.all isPrintable && !hasPair isSpace isAnyBreak cs

/-- Whether a text can be written plain in a block collection. -/
def allowsPlain (cs : List Char) : Bool :=
  isEscapeFree cs && !cs.any isAnyBreak && !cs.head?.any isSpace && !cs.getLast?.any isSpace
    && !startsWithIndicator cs && !hasIndicatorInside cs

/-- Whether a text can be written between single quotes. -/
def allowsSingleQuotes (cs : List Char) : Bool :=
  isEscapeFree cs && !hasPair isAnyBreak isSpace cs

/-- Whether a text can be written as a literal block. -/
def allowsLiteral (cs : List Char) : Bool :=
  isEscapeFree cs && cs ≠ [] && !cs.getLast?.any isSpace

/-! ## Forms -/

def spaces (count : Nat) : List Char := List.replicate count ' '

/-- The digits of a code in capital hexadecimal, at least `width` of them. -/
def hexDigits (width code : Nat) : List Char :=
  let digits := (Nat.toDigits 16 code).map Char.toUpper
  List.replicate (width - digits.length) '0' ++ digits

/-- A character between double quotes. -/
def escapedChar (c : Char) : List Char :=
  if isPrintable c && !isAnyBreak c && c ≠ '"' && c ≠ '\\' then [c]
  else
    let letter? : Option Char :=
      match c with
      | '\x00' => some '0'
      | '\x07' => some 'a'
      | '\x08' => some 'b'
      | '\t' => some 't'
      | '\n' => some 'n'
      | '\x0b' => some 'v'
      | '\x0c' => some 'f'
      | '\r' => some 'r'
      | '\x1b' => some 'e'
      | '"' => some '"'
      | '\\' => some '\\'
      | '\x85' => some 'N'
      | '\u2028' => some 'L'
      | '\u2029' => some 'P'
      | _ => none
    match letter? with
    | some letter => ['\\', letter]
    | none =>
      if c.toNat ≤ 0xFF then '\\' :: 'x' :: hexDigits 2 c.toNat
      else if c.toNat ≤ 0xFFFF then '\\' :: 'u' :: hexDigits 4 c.toNat
      else '\\' :: 'U' :: hexDigits 8 c.toNat

def doubleQuoted (cs : List Char) : List Char :=
  '"' :: cs.flatMap escapedChar ++ ['"']

/-- The inside of a single-quoted text. Behind a break the line is indented. -/
def singleQuotedInside (indent : Nat) (afterBreak : Bool) : List Char → List Char
  | [] => if afterBreak then spaces indent else []
  | c :: rest =>
    if isBreak c then c :: singleQuotedInside indent true rest
    else
      (if afterBreak then spaces indent else []) ++ (if c = '\'' then ['\'', '\''] else [c])
        ++ singleQuotedInside indent false rest

def singleQuoted (indent : Nat) (cs : List Char) : List Char :=
  '\'' :: singleQuotedInside indent false cs ++ ['\'']

/-- The lines of a literal block. -/
def literalLines (indent : Nat) (afterBreak : Bool) : List Char → List Char
  | [] => []
  | c :: rest =>
    if isBreak c then c :: literalLines indent true rest
    else
      (if afterBreak then spaces indent else []) ++ c :: literalLines indent false rest

/-- What the header of a literal block says: the indentation, if the text starts with white space, and
what becomes of the breaks at its end. -/
def literalHints (cs : List Char) : List Char :=
  let indentation := if cs.head?.any fun c => isSpace c || isBreak c then ['2'] else []
  let chomping :=
    match cs.reverse with
    | [] => ['-']
    | last :: before =>
      if !isBreak last then ['-']
      else if before.head?.all isBreak then ['+']
      else []
  indentation ++ chomping

def literal (indent : Nat) (cs : List Char) : List Char :=
  '|' :: literalHints cs ++ '\n' :: literalLines indent true cs

/-- A text in the form that fits. A key on the line of its value has to stay on one line. -/
def scalarChars (indent : Nat) (isKey : Bool) (text : String) : List Char :=
  let cs := text.toList
  if isKey && cs.any isAnyBreak then doubleQuoted cs
  else if cs.contains '\n' then
    if allowsLiteral cs && !isKey then literal indent cs else doubleQuoted cs
  else if meansItself text && allowsPlain cs then cs
  else if allowsSingleQuotes cs then singleQuoted indent cs
  else doubleQuoted cs

end Yaml

end ConfigKit
